import Mathlib

/-!
# DelegateAudit — first occurrences

Two parts of the library go through a list and keep some of its items, each at the place where it
came first: the members of a JSON object by their keys, and the sources that match. What both keep
is said here without the way it is found (`ListsFirst`), and it is said once what one more item
adds to it.

Main results:

* `ListsFirst.keep`, `ListsFirst.skip` — what one more item adds.
* `ListsFirst.unique` — there is only one list of first occurrences.
* `ListsFirst.append` — items that came before add nothing.
* `ListsFirst.firstOf_find?` — the first item that is found among them is the first of all.
-/

namespace DelegateAudit

/-- The items of a list with some property, each once, in the order in which they first occur. -/
structure ListsFirst {α : Type} [DecidableEq α] (wanted : α → Prop) (all found : List α) :
    Prop where
  distinct : found.Nodup
  mem_iff  : ∀ a, a ∈ found ↔ a ∈ all ∧ wanted a
  inOrder  : found.Pairwise fun a b => all.idxOf a < all.idxOf b

/-- The first item of a list with some property, or none if no item has it. -/
def FirstOf {α : Type} [DecidableEq α] (wanted : α → Prop) (all : List α) : Option α → Prop
  | none => ∀ a ∈ all, ¬ wanted a
  | some a => a ∈ all ∧ wanted a ∧ ∀ b ∈ all, wanted b → all.idxOf a ≤ all.idxOf b

namespace ListsFirst

variable {α : Type} [DecidableEq α] {wanted : α → Prop} {all found found' more : List α} {a : α}

theorem nil (wanted : α → Prop) : ListsFirst wanted [] [] :=
  ⟨.nil, by simp, .nil⟩

/-- Nothing that stands behind a list changes where its own items first occur. -/
theorem inOrder_append (h : ListsFirst wanted all found) (more : List α) :
    found.Pairwise fun a b => (all ++ more).idxOf a < (all ++ more).idxOf b := by
  refine h.inOrder.imp_of_mem fun {a b} ha hb hlt => ?_
  rw [List.idxOf_append_of_mem ((h.mem_iff a).mp ha).1,
    List.idxOf_append_of_mem ((h.mem_iff b).mp hb).1]
  exact hlt

/-- An item that is not wanted, or is listed already, adds nothing. -/
theorem skip (h : ListsFirst wanted all found) (ha : wanted a → a ∈ found) :
    ListsFirst wanted (all ++ [a]) found := by
  refine ⟨h.distinct, fun b => ?_, h.inOrder_append [a]⟩
  rw [List.mem_append, List.mem_singleton, or_and_right, ← h.mem_iff]
  refine (or_iff_left_of_imp ?_).symm
  rintro ⟨rfl, hwanted⟩
  exact ha hwanted

/-- A wanted item that is not listed yet comes last. -/
theorem keep (h : ListsFirst wanted all found) (hwanted : wanted a) (ha : a ∉ found) :
    ListsFirst wanted (all ++ [a]) (found ++ [a]) := by
  have hnew : a ∉ all := fun hmem => ha ((h.mem_iff a).mpr ⟨hmem, hwanted⟩)
  refine ⟨?_, fun b => ?_, ?_⟩
  · refine h.distinct.append (List.nodup_singleton a) ?_
    rw [List.disjoint_singleton]
    exact ha
  · rw [List.mem_append, List.mem_append, List.mem_singleton, h.mem_iff, or_and_right]
    refine or_congr_right (iff_self_and.mpr ?_)
    rintro rfl
    exact hwanted
  · refine List.pairwise_append.mpr ⟨h.inOrder_append [a], List.pairwise_singleton _ _, ?_⟩
    intro b hb c hc
    obtain rfl := List.mem_singleton.mp hc
    -- what is listed occurs in the old list, and the new item only behind it
    have hold : b ∈ all := ((h.mem_iff b).mp hb).1
    rw [List.idxOf_append_of_mem hold, List.idxOf_append_of_notMem hnew]
    have hlt := List.idxOf_lt_length_of_mem hold
    omega

theorem unique (h : ListsFirst wanted all found) (h' : ListsFirst wanted all found') :
    found = found' := by
  have hperm : found.Perm found' :=
    (List.perm_ext_iff_of_nodup h.distinct h'.distinct).mpr fun a =>
      (h.mem_iff a).trans (h'.mem_iff a).symm
  refine hperm.eq_of_pairwise (fun a b _ _ hab hba => ?_) h.inOrder h'.inOrder
  omega

/-- A list of first occurrences is that of its own items. -/
theorem self (h : ListsFirst wanted all found) : ListsFirst wanted found found := by
  refine ⟨h.distinct, fun a => ?_, ?_⟩
  · exact (and_iff_left_of_imp fun ha => ((h.mem_iff a).mp ha).2).symm
  · rw [List.pairwise_iff_getElem]
    intro i j hi hj hlt
    rw [h.distinct.idxOf_getElem, h.distinct.idxOf_getElem]
    exact hlt

/-- Items that came before add nothing. -/
theorem append (h : ListsFirst wanted all found) (hmore : more ⊆ all) :
    ListsFirst wanted (all ++ more) found := by
  refine ⟨h.distinct, fun a => ?_, h.inOrder_append more⟩
  rw [h.mem_iff, List.mem_append, or_iff_left_of_imp fun ha => hmore ha]

/-- **To look through the first occurrences is to look through all.** The items may come with
something else, as keys come with values. -/
theorem firstOf_find? {β : Type} {key : β → α} {xs : List β} {p : β → Bool}
    (h : ListsFirst (fun _ => True) all (xs.map key))
    (hp : ∀ x ∈ xs, p x = true ↔ wanted (key x)) : FirstOf wanted all ((xs.find? p).map key) := by
  have hitem : ∀ a ∈ all, ∃ x ∈ xs, key x = a := fun a ha =>
    List.mem_map.mp ((h.mem_iff a).mpr ⟨ha, trivial⟩)
  cases hfind : xs.find? p with
  | none =>
    intro a ha hwanted
    obtain ⟨x, hx, rfl⟩ := hitem a ha
    exact List.find?_eq_none.mp hfind x hx ((hp x hx).mpr hwanted)
  | some x =>
    obtain ⟨hpx, before, after, rfl, hbefore⟩ := List.find?_eq_some_iff_append.mp hfind
    have hx : x ∈ before ++ x :: after := by simp
    refine ⟨((h.mem_iff _).mp (List.mem_map_of_mem hx)).1, (hp x hx).mp hpx, ?_⟩
    intro b hb hwanted
    obtain ⟨y, hy, rfl⟩ := hitem b hb
    rcases List.mem_append.mp hy with hmem | hmem
    · -- what stands before was looked at and passed over
      have hpassed : ¬ p y = true := by simpa using hbefore y hmem
      exact absurd ((hp y hy).mpr hwanted) hpassed
    rcases List.mem_cons.mp hmem with rfl | hmem
    · exact le_rfl
    have horder := h.inOrder
    rw [List.map_append, List.map_cons, List.pairwise_append, List.pairwise_cons] at horder
    exact (horder.2.1.1 _ (List.mem_map_of_mem hmem)).le

end ListsFirst
end DelegateAudit

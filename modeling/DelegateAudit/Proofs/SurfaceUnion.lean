import DelegateAudit.Proofs.Parameters

/-!
# DelegateAudit — the surface of one ABI after another

The analysis of an ABI carries a surface along and adds to it entry by entry. What it adds does not
depend on what it carries (`Abi.outcome_addEntries_eq`), so the analysis of a list is put together
from the analyses of its parts: surfaces with their union are a monoid, and the analysis takes lists
to it. It ends well exactly if every single entry does (`Abi.exists_analyze_iff`), wherever the
entry stands.

Together with the meaning of the flags (`Abi.analyze_flags`) this says that neither flag depends on
the order of the entries. The list of forwarders does, but whether there are any does not.

Main results:

* `Abi.outcome_analyze_append` — the analysis of two lists.
* `Abi.analyze_listed` — the flag for forwarders tells whether the list of them is empty.
* `Abi.analyze_homomorphism` — both, with what the flags mean.
-/

namespace DelegateAudit.Abi

open Json

variable {limits : Limits} {rules : ForwarderRules}

-- ---------------------------------------------------------------------------
-- Unions of surfaces
-- ---------------------------------------------------------------------------

theorem Surface.empty_union (s : Surface) : Surface.union {} s = s := by
  simp [union]

theorem Surface.union_assoc (s t u : Surface) : (s.union t).union u = s.union (t.union u) := by
  simp [union, Bool.or_assoc]

/-- The flag for forwarders is set exactly if some are listed. -/
def Surface.Listed (s : Surface) : Prop := s.hasForwarder = true ↔ s.forwarders ≠ []

theorem Surface.Listed.union {s t : Surface} (hs : s.Listed) (ht : t.Listed) :
    (s.union t).Listed := by
  unfold Listed Surface.union at *
  rw [Bool.or_eq_true, hs, ht, ne_eq, ne_eq, ne_eq, List.append_eq_nil_iff, not_and_or]

-- ---------------------------------------------------------------------------
-- Lists of entries
-- ---------------------------------------------------------------------------

/-- What is added to a surface is what the entries show by themselves. -/
theorem outcome_addEntries_eq (limits : Limits) (rules : ForwarderRules) (surface : Surface)
    (entries : List Value) :
    (addEntries limits rules surface entries).outcome =
      (analyze limits rules entries).outcome >>= fun shown => .ok (surface.union shown) := by
  induction entries generalizing surface with
  | nil =>
    show Except.ok surface = .ok (surface.union {})
    rw [Surface.union_empty]
  | cons v rest ih =>
    rw [analyze, outcome_addEntries_cons, outcome_addEntries_cons]
    cases entrySurface limits rules v with
    | error fault => rfl
    | ok shown =>
      show (addEntries limits rules (surface.union shown) rest).outcome =
        (addEntries limits rules (Surface.union {} shown) rest).outcome >>= _
      rw [ih, ih, Surface.empty_union]
      cases (analyze limits rules rest).outcome with
      | error fault => rfl
      | ok later => exact congrArg Except.ok (Surface.union_assoc surface shown later)

/-- The analysis of an entry and those behind it. -/
theorem outcome_analyze_cons (limits : Limits) (rules : ForwarderRules) (v : Value)
    (rest : List Value) :
    (analyze limits rules (v :: rest)).outcome =
      entrySurface limits rules v >>= fun shown =>
        (analyze limits rules rest).outcome >>= fun later => .ok (shown.union later) := by
  rw [analyze, outcome_addEntries_cons]
  simp only [outcome_addEntries_eq, Surface.empty_union]

/-- **The analysis of two lists, one after the other.** -/
theorem outcome_analyze_append (limits : Limits) (rules : ForwarderRules) (a b : List Value) :
    (analyze limits rules (a ++ b)).outcome =
      (analyze limits rules a).outcome >>= fun first =>
        (analyze limits rules b).outcome >>= fun second => .ok (first.union second) := by
  induction a with
  | nil =>
    show (analyze limits rules b).outcome =
      (analyze limits rules b).outcome >>= fun second => .ok (Surface.union {} second)
    cases (analyze limits rules b).outcome with
    | error fault => rfl
    | ok second => exact congrArg Except.ok (Surface.empty_union second).symm
  | cons v rest ih =>
    rw [List.cons_append, outcome_analyze_cons, outcome_analyze_cons, ih]
    simp only [bind_assoc]
    -- the first fault of the three parts is that of either side
    cases entrySurface limits rules v with
    | error fault => rfl
    | ok shown =>
      cases (analyze limits rules rest).outcome with
      | error fault => rfl
      | ok later =>
        cases (analyze limits rules b).outcome with
        | error fault => rfl
        | ok second => exact congrArg Except.ok (Surface.union_assoc shown later second).symm

/-- The analysis ends well exactly if every entry does by itself. -/
theorem exists_analyze_iff {entries : List Value} :
    (∃ s, (analyze limits rules entries).outcome = .ok s) ↔
      ∀ v ∈ entries, ∃ shown, entrySurface limits rules v = .ok shown := by
  induction entries with
  | nil => exact iff_of_true ⟨{}, rfl⟩ (by simp)
  | cons v rest ih =>
    rw [List.forall_mem_cons, ← ih, outcome_analyze_cons]
    constructor
    · rintro ⟨s, hs⟩
      obtain ⟨shown, hshown, hs⟩ := Run.except_bind_eq_ok.mp hs
      obtain ⟨later, hlater, -⟩ := Run.except_bind_eq_ok.mp hs
      exact ⟨⟨shown, hshown⟩, later, hlater⟩
    · rintro ⟨⟨shown, hshown⟩, later, hlater⟩
      rw [hshown, hlater]
      exact ⟨shown.union later, rfl⟩

theorem entrySurface_listed {v : Value} {shown : Surface}
    (h : entrySurface limits rules v = .ok shown) : shown.Listed := by
  unfold entrySurface at h
  cases hkind : kindOf rules v with
  | forwarder entry =>
    rw [hkind] at h
    obtain ⟨written, -, h⟩ := Run.except_bind_eq_ok.mp h
    obtain ⟨chosen, -, h⟩ := Run.except_bind_eq_ok.mp h
    cases h
    simp [Surface.Listed]
  | malformed =>
    rw [hkind] at h
    obtain ⟨quoted, -, h⟩ := Run.except_bind_eq_ok.mp h
    cases h
    simp [Surface.Listed]
  | _ =>
    -- no forwarder, and none listed
    rw [hkind] at h
    cases h
    simp [Surface.Listed]

/-- What every entry keeps, the analysis keeps. -/
theorem analyze_listed {entries : List Value} {s : Surface}
    (h : (analyze limits rules entries).outcome = .ok s) : s.Listed := by
  induction entries generalizing s with
  | nil =>
    cases h
    simp [Surface.Listed]
  | cons v rest ih =>
    rw [outcome_analyze_cons] at h
    obtain ⟨shown, hshown, h⟩ := Run.except_bind_eq_ok.mp h
    obtain ⟨later, hlater, h⟩ := Run.except_bind_eq_ok.mp h
    cases h
    exact (entrySurface_listed hshown).union (ih hlater)

/-- Entries in another order are analysed as well, and both flags are the same. -/
theorem analyze_of_perm {entries others : List Value} (hperm : others.Perm entries) {s : Surface}
    (h : (analyze limits rules entries).outcome = .ok s) :
    ∃ t, (analyze limits rules others).outcome = .ok t ∧ t.hasForwarder = s.hasForwarder ∧
      t.hasFallback = s.hasFallback := by
  have hshown : ∀ v ∈ others, ∃ shown, entrySurface limits rules v = .ok shown := by
    intro v hv
    exact exists_analyze_iff.mp ⟨s, h⟩ v (hperm.mem_iff.mp hv)
  obtain ⟨t, ht⟩ := exists_analyze_iff.mpr hshown
  obtain ⟨hfallback, hforwarder⟩ := analyze_flags h
  obtain ⟨hfallback', hforwarder'⟩ := analyze_flags ht
  refine ⟨t, ht, ?_, ?_⟩
  · rw [Bool.eq_iff_iff, hforwarder, hforwarder']
    simp only [hperm.mem_iff]
  · rw [Bool.eq_iff_iff, hfallback, hfallback']
    simp only [hperm.mem_iff]

/-- **The analysis goes along with lists, and its flags mean something.** Two lists of entries show
together what they show apart, in order. The flag for forwarders is set exactly if some are listed,
and exactly if there is an entry of a forwarder; the other flag exactly if there is a fallback or
receive entry. So the order of the entries does not matter to either. -/
theorem analyze_homomorphism (limits : Limits) (rules : ForwarderRules) (a b : List Value)
    (sa sb : Surface) (ha : (analyze limits rules a).outcome = .ok sa)
    (hb : (analyze limits rules b).outcome = .ok sb) :
    (∃ s, (analyze limits rules (a ++ b)).outcome = .ok s ∧
        s.forwarders = sa.forwarders ++ sb.forwarders ∧
        s.hasForwarder = (sa.hasForwarder || sb.hasForwarder) ∧
        s.hasFallback = (sa.hasFallback || sb.hasFallback)) ∧
      (sa.hasForwarder = true ↔ sa.forwarders ≠ []) ∧
      (sa.hasForwarder = true ↔ ∃ v ∈ a, IsForwarderEntry rules v) ∧
      (sa.hasFallback = true ↔ ∃ v ∈ a, IsFallbackEntry v) ∧
      ∀ others, others.Perm a →
        ∃ s, (analyze limits rules others).outcome = .ok s ∧ s.hasForwarder = sa.hasForwarder ∧
          s.hasFallback = sa.hasFallback := by
  obtain ⟨hfallback, hforwarder⟩ := analyze_flags ha
  refine ⟨⟨sa.union sb, ?_, rfl, rfl, rfl⟩, analyze_listed ha, hforwarder, hfallback, ?_⟩
  · rw [outcome_analyze_append, ha, hb]
    rfl
  · intro others hperm
    exact analyze_of_perm hperm ha

/-- An entry of a forwarder by its parameter types alone. -/
def relayEntry : Members :=
  [("type", .str "function"), ("name", .str "relay"),
   ("inputs", .arr [.obj [("type", .str "address[]")], .obj [("type", .str "bytes32")]])]

/-- A number, a reading function with the name of a forwarder, and a receive entry. -/
def plainEntries : List Value :=
  [.int 7,
   .obj [("type", .str "function"), ("name", .str "execute"), ("stateMutability", .str "view")],
   .obj [("type", .str "receive")]]

/-- The forwarder comes from one list and the way in from the other. -/
theorem analyze_homomorphism_relay :
    ∃ sa sb, (analyze {} .standard [.obj relayEntry]).outcome = .ok sa ∧
      (analyze {} .standard plainEntries).outcome = .ok sb ∧
      ∃ s, (analyze {} .standard ([.obj relayEntry] ++ plainEntries)).outcome = .ok s ∧
        s.forwarders = sa.forwarders ∧ s.hasForwarder = true ∧ s.hasFallback = true := by
  have hunicode : Text.isUnicode "relay(address[],bytes32)" = true := by decide
  obtain ⟨chosen, hchosen⟩ := exists_selector hunicode
  have hkind : kindOf .standard (.obj relayEntry) = .forwarder relayEntry := rfl
  have hsignature : signature ({} : Limits).expansion relayEntry =
      .ok "relay(address[],bytes32)" := by decide
  have hshown : ∃ shown, entrySurface {} .standard (.obj relayEntry) = .ok shown := by
    simp only [entrySurface, hkind, hsignature, hchosen, bind, Except.bind]
    exact ⟨_, rfl⟩
  obtain ⟨sa, ha⟩ := exists_analyze_iff.mpr (List.forall_mem_singleton.mpr hshown)
  have hb : (analyze {} .standard plainEntries).outcome = .ok { hasFallback := true } := by decide
  obtain ⟨⟨s, hs, hforwarders, hforwarder, hfallback⟩, -, hmeaning, -⟩ :=
    analyze_homomorphism {} .standard [.obj relayEntry] plainEntries sa _ ha hb
  have hset : sa.hasForwarder = true := by
    refine hmeaning.mpr ⟨.obj relayEntry, List.mem_singleton_self _, ?_⟩
    exact ⟨relayEntry, rfl, by decide, by decide, by decide, .inr (.inr (by decide))⟩
  refine ⟨sa, _, ha, hb, s, hs, ?_, ?_, ?_⟩
  · rw [hforwarders, List.append_nil]
  · rw [hforwarder, hset, Bool.true_or]
  · rw [hfallback, Bool.or_true]

end DelegateAudit.Abi

import Mathlib
import DelegateAudit.Pattern.Search

/-!
# DelegateAudit — what patterns match

`Pattern.Matches` says which stretches of a text a pattern matches, by recursion over the pattern
and without any search: a stretch has a text before it and a text after it, and anchors look at
these. `Pattern.search` is shown to find a match exactly if there is one (`Pattern.search_iff`),
for every pattern that repeats without being possessive and whose counts are in order.

The search follows places and not stretches, and it keeps lists of places in which an offset
comes only once. That loses nothing because all places are places of one text, where the offset
decides the rest (`Cursor.On.eq_of_offset`). A repetition is cut short in two ways, which are each
justified once: a step that does not advance is none (`mem_closure_iff`), and a row of more steps
than there are characters left has one that does not advance, so that its length is of no account
(`reach_iff_of_lt`).

Main results:

* `Cursor.mem_closure_iff` — the places that any number of steps lead to.
* `Pattern.mem_ends_iff` — the ends of a match are those of the stretches that match.
* `Pattern.search_iff` — the search is sound and complete.
-/

namespace DelegateAudit

-- ---------------------------------------------------------------------------
-- Stretches that match
-- ---------------------------------------------------------------------------

/-- The condition holds at the place between two texts. -/
def Anchor.HoldsBetween (before after : Text) : Anchor → Prop
  | .start => before = []
  | .lineEnd => after = [] ∨ after = ("\n" : Text)
  | .finish => after = []
  | .boundary => before.getLast?.any CodePoint.isWord ≠ after.head?.any CodePoint.isWord
  | .inside =>
    before.getLast?.any CodePoint.isWord = after.head?.any CodePoint.isWord ∧
      ¬ (before = [] ∧ after = [])

/-- A stretch between two texts is a row of `n` stretches of a kind. -/
def InRow (one : (before hit after : Text) → Prop) : (n : Nat) → (before hit after : Text) → Prop
  | 0, _, hit, _ => hit = []
  | n + 1, before, hit, after =>
    ∃ first rest, hit = first ++ rest ∧ one before first (rest ++ after) ∧
      InRow one n (before ++ first) rest after

namespace Pattern

/-- The pattern matches the stretch `hit` that stands between two texts. -/
def Matches : Pattern → (before hit after : Text) → Prop
  | .empty, _, hit, _ => hit = []
  | .set chars, _, hit, _ => ∃ c, hit = [c] ∧ chars.has c = true
  | .anchor place, before, hit, after => hit = [] ∧ place.HoldsBetween before after
  | .seq first second, before, hit, after =>
    ∃ s t, hit = s ++ t ∧ first.Matches before s (t ++ after) ∧ second.Matches (before ++ s) t after
  | .alt left right, before, hit, after =>
    left.Matches before hit after ∨ right.Matches before hit after
  | .group body, before, hit, after => body.Matches before hit after
  | .times _ body least most, before, hit, after =>
    ∃ n, least ≤ n ∧ (∀ bound ∈ most, n ≤ bound) ∧ InRow body.Matches n before hit after

/-- No repetition is possessive, and none wants more stretches than it allows. -/
def IsRegular : Pattern → Bool
  | .empty | .set _ | .anchor _ => true
  | .seq first second => first.IsRegular && second.IsRegular
  | .alt left right => left.IsRegular && right.IsRegular
  | .group body => body.IsRegular
  | .times choice body least most =>
    choice ≠ .possessive && most.all (least ≤ ·) && body.IsRegular

end Pattern

-- ---------------------------------------------------------------------------
-- Places of one text
-- ---------------------------------------------------------------------------

namespace Cursor

/-- The place between two texts. -/
def between (before after : Text) : Cursor := ⟨before.length, before.getLast?, after⟩

/-- A place of the text. -/
def On (line : Text) (c : Cursor) : Prop :=
  ∃ before after, line = before ++ after ∧ c = between before after

variable {line : Text} {c d e : Cursor} {cs ds : List Cursor}

theorem on_between (before after : Text) : (between before after).On (before ++ after) :=
  ⟨before, after, rfl, rfl⟩

/-- The offset of a place decides the place. -/
theorem On.eq_of_offset (hc : c.On line) (hd : d.On line) (h : c.offset = d.offset) : c = d := by
  obtain ⟨before, after, hline, rfl⟩ := hc
  obtain ⟨before', after', hline', rfl⟩ := hd
  obtain ⟨rfl, rfl⟩ := List.append_inj (hline.symm.trans hline') h
  rfl

theorem On.offset_add (hc : c.On line) : c.offset + c.rest.length = line.length := by
  obtain ⟨before, after, rfl, rfl⟩ := hc
  exact (List.length_append).symm

theorem mem_insert_iff (hc : c.On line) (hcs : ∀ d ∈ cs, d.On line) :
    e ∈ insert c cs ↔ e = c ∨ e ∈ cs := by
  induction cs with
  | nil => simp [insert]
  | cons d rest ih =>
    obtain ⟨hd, hrest⟩ := List.forall_mem_cons.mp hcs
    rw [insert]
    split_ifs with hlt heq
    · exact List.mem_cons
    · -- a place with this offset is the same place
      obtain rfl := hc.eq_of_offset hd heq
      simp
    · rw [List.mem_cons, ih hrest, List.mem_cons, or_left_comm]

theorem mem_union_iff (hcs : ∀ c ∈ cs, c.On line) (hds : ∀ d ∈ ds, d.On line) :
    e ∈ union cs ds ↔ e ∈ cs ∨ e ∈ ds := by
  induction cs generalizing e with
  | nil => simp [union]
  | cons c rest ih =>
    obtain ⟨hc, hrest⟩ := List.forall_mem_cons.mp hcs
    have hon : ∀ d ∈ union rest ds, d.On line := fun d hd =>
      ((ih hrest).mp hd).elim (hrest d) (hds d)
    show e ∈ insert c (union rest ds) ↔ _
    rw [mem_insert_iff hc hon, ih hrest, List.mem_cons, or_assoc]

/-- Each place lies further on than the one before. -/
def InOrder (cs : List Cursor) : Prop := cs.Pairwise fun c d => c.offset < d.offset

theorem mem_insert_cases (h : e ∈ insert c cs) : e = c ∨ e ∈ cs := by
  induction cs with
  | nil => exact .inl (List.mem_singleton.mp h)
  | cons d rest ih =>
    rw [insert] at h
    split_ifs at h with hlt heq
    · exact List.mem_cons.mp h
    · exact .inr h
    · rcases List.mem_cons.mp h with rfl | h
      · exact .inr List.mem_cons_self
      · exact (ih h).imp_right (List.mem_cons_of_mem d)

theorem InOrder.insert (h : InOrder cs) (c : Cursor) : InOrder (insert c cs) := by
  induction cs with
  | nil => exact List.pairwise_singleton _ c
  | cons d rest ih =>
    obtain ⟨hd, hrest⟩ := List.pairwise_cons.mp h
    rw [Cursor.insert]
    split_ifs with hlt heq
    · refine List.pairwise_cons.mpr ⟨fun e he => ?_, h⟩
      rcases List.mem_cons.mp he with rfl | he
      · exact hlt
      · exact hlt.trans (hd e he)
    · exact h
    · refine List.pairwise_cons.mpr ⟨fun e he => ?_, ih hrest⟩
      rcases mem_insert_cases he with rfl | he
      · omega
      · exact hd e he

theorem InOrder.union (h : InOrder ds) (cs : List Cursor) : InOrder (union cs ds) := by
  induction cs with
  | nil => exact h
  | cons c rest ih => exact ih.insert c

theorem inOrder_stepAll (step : Cursor → List Cursor) (cs : List Cursor) :
    InOrder (stepAll step cs) := by
  induction cs with
  | nil => exact .nil
  | cons c rest ih => exact ih.union (step c)

theorem InOrder.exactly (h : InOrder cs) (step : Cursor → List Cursor) (n : Nat) :
    InOrder (exactly step n cs) := by
  induction n generalizing cs with
  | zero => exact h
  | succ n ih => exact ih (inOrder_stepAll step cs)

-- ---------------------------------------------------------------------------
-- Steps
-- ---------------------------------------------------------------------------

/-- Exactly `n` steps lead from one place to another. -/
def Reach (step : Cursor → List Cursor) : (n : Nat) → Cursor → Cursor → Prop
  | 0, c, e => e = c
  | n + 1, c, e => ∃ d ∈ step c, Reach step n d e

/-- Steps from places of the text lead to places of the text, and never back. -/
def Advances (line : Text) (step : Cursor → List Cursor) : Prop :=
  ∀ c, c.On line → ∀ d ∈ step c, d.On line ∧ c.offset ≤ d.offset

variable {step : Cursor → List Cursor} {m n : Nat}

theorem reach_add : Reach step (m + n) c e ↔ ∃ d, Reach step m c d ∧ Reach step n d e := by
  induction m generalizing c with
  | zero => simp [Reach]
  | succ m ih =>
    rw [Nat.add_right_comm]
    simp only [Reach, ih]
    constructor
    · rintro ⟨a, ha, d, hd, he⟩
      exact ⟨d, ⟨a, ha, hd⟩, he⟩
    · rintro ⟨d, ⟨a, ha, hd⟩, he⟩
      exact ⟨a, ha, d, hd, he⟩

theorem Advances.reach (h : Advances line step) (hc : c.On line) (hreach : Reach step n c e) :
    e.On line ∧ c.offset ≤ e.offset := by
  induction n generalizing c with
  | zero =>
    obtain rfl : e = c := hreach
    exact ⟨hc, le_refl _⟩
  | succ n ih =>
    obtain ⟨d, hd, hreach⟩ := hreach
    obtain ⟨hon, hle⟩ := h c hc d hd
    obtain ⟨he, hle'⟩ := ih hon hreach
    exact ⟨he, hle.trans hle'⟩

/-- A step leads further on, or nowhere. -/
theorem Advances.cases (h : Advances line step) (hc : c.On line) (hd : d ∈ step c) :
    d = c ∨ c.offset < d.offset := by
  obtain ⟨hon, hle⟩ := h c hc d hd
  rcases hle.eq_or_lt with heq | hlt
  · exact .inl (hon.eq_of_offset hc heq.symm)
  · exact .inr hlt

theorem mem_stepAll_iff (h : Advances line step) (hcs : ∀ c ∈ cs, c.On line) :
    e ∈ stepAll step cs ↔ ∃ c ∈ cs, e ∈ step c := by
  induction cs generalizing e with
  | nil => simp [stepAll]
  | cons c rest ih =>
    obtain ⟨hc, hrest⟩ := List.forall_mem_cons.mp hcs
    have hon : ∀ d ∈ stepAll step rest, d.On line := by
      intro d hd
      obtain ⟨a, ha, hd⟩ := (ih hrest).mp hd
      exact (h a (hrest a ha) d hd).1
    show e ∈ union (step c) (stepAll step rest) ↔ _
    rw [mem_union_iff (fun d hd => (h c hc d hd).1) hon, ih hrest, List.exists_mem_cons_iff]

theorem mem_exactly_iff (h : Advances line step) (hcs : ∀ c ∈ cs, c.On line) :
    e ∈ exactly step n cs ↔ ∃ c ∈ cs, Reach step n c e := by
  induction n generalizing cs with
  | zero => simp [exactly, Reach]
  | succ n ih =>
    have hon : ∀ d ∈ stepAll step cs, d.On line := by
      intro d hd
      obtain ⟨c, hc, hd⟩ := (mem_stepAll_iff h hcs).mp hd
      exact (h c (hcs c hc) d hd).1
    rw [exactly, ih hon]
    simp only [mem_stepAll_iff h hcs, Reach]
    constructor
    · rintro ⟨d, ⟨c, hc, hd⟩, he⟩
      exact ⟨c, hc, d, hd, he⟩
    · rintro ⟨c, hc, d, hd, he⟩
      exact ⟨d, ⟨c, hc, hd⟩, he⟩

theorem mem_atMost_iff (h : Advances line step) (hcs : ∀ c ∈ cs, c.On line) :
    e ∈ atMost step n cs ↔ ∃ c ∈ cs, ∃ k ≤ n, Reach step k c e := by
  induction n generalizing cs e with
  | zero =>
    simp only [atMost, Nat.le_zero_eq, exists_eq_left, Reach]
    exact ⟨fun he => ⟨e, he, rfl⟩, fun ⟨c, hc, he⟩ => he ▸ hc⟩
  | succ n ih =>
    have hon : ∀ d ∈ stepAll step cs, d.On line := by
      intro d hd
      obtain ⟨c, hc, hd⟩ := (mem_stepAll_iff h hcs).mp hd
      exact (h c (hcs c hc) d hd).1
    have hon' : ∀ d ∈ atMost step n (stepAll step cs), d.On line := by
      intro d hd
      obtain ⟨a, ha, k, -, hreach⟩ := (ih hon).mp hd
      exact (h.reach (hon a ha) hreach).1
    rw [atMost, mem_union_iff hcs hon', ih hon]
    constructor
    · rintro (he | ⟨d, hd, k, hk, he⟩)
      · exact ⟨e, he, 0, Nat.zero_le _, rfl⟩
      · obtain ⟨c, hc, hd⟩ := (mem_stepAll_iff h hcs).mp hd
        exact ⟨c, hc, k + 1, Nat.succ_le_succ hk, d, hd, he⟩
    · rintro ⟨c, hc, k, hk, he⟩
      cases k with
      | zero =>
        obtain rfl : e = c := he
        exact .inl hc
      | succ k =>
        obtain ⟨d, hd, he⟩ := he
        exact .inr ⟨d, (mem_stepAll_iff h hcs).mpr ⟨c, hc, hd⟩, k, Nat.le_of_succ_le_succ hk, he⟩

/-- Steps that do not advance are left out: whoever gets from a place to another one gets to a place
further on by a single step, and from there to the other one. -/
theorem Advances.reach_cases (h : Advances line step) (hc : c.On line) (hreach : Reach step n c e) :
    e = c ∨ ∃ d ∈ step c, c.offset < d.offset ∧ ∃ k, Reach step k d e := by
  induction n with
  | zero => exact .inl hreach
  | succ n ih =>
    obtain ⟨d, hd, hreach⟩ := hreach
    rcases h.cases hc hd with rfl | hlt
    · exact ih hreach
    · exact .inr ⟨d, hd, hlt, n, hreach⟩

/-- What waits after a place was taken: the places one step further on, and what waited before. -/
theorem mem_waiting_iff (h : Advances line step) (hc : c.On line) (hds : ∀ d ∈ ds, d.On line) :
    d ∈ union ((step c).filter fun d => c.offset < d.offset) ds ↔
      (d ∈ step c ∧ c.offset < d.offset) ∨ d ∈ ds := by
  have hon : ∀ d ∈ (step c).filter fun d => c.offset < d.offset, d.On line :=
    fun d hd => (h c hc d (List.mem_of_mem_filter hd)).1
  rw [mem_union_iff hon hds, List.mem_filter, decide_eq_true_eq]

/-- **The places that any number of steps lead to.** The earliest place that waits is taken, so what
waits lies ahead of all that was taken, and the text runs out before the fuel does. -/
theorem mem_closure_iff (h : Advances line step) {fuel : Nat} (hcs : ∀ c ∈ cs, c.On line)
    (horder : InOrder cs) (hfuel : ∀ c ∈ cs, line.length < c.offset + fuel) :
    e ∈ closure step fuel cs ↔ ∃ c ∈ cs, ∃ k, Reach step k c e := by
  induction fuel generalizing cs with
  | zero =>
    cases cs with
    | nil => simp [closure]
    | cons c rest =>
      have hlength := (hcs c List.mem_cons_self).offset_add
      have hlt := hfuel c List.mem_cons_self
      omega
  | succ fuel ih =>
    cases cs with
    | nil => simp [closure]
    | cons c waiting =>
      obtain ⟨hc, hwaiting⟩ := List.forall_mem_cons.mp hcs
      obtain ⟨hahead, horder⟩ := List.pairwise_cons.mp horder
      have hmem {d : Cursor} := mem_waiting_iff (d := d) h hc hwaiting
      have hon : ∀ d ∈ union ((step c).filter fun d => c.offset < d.offset) waiting, d.On line :=
        fun d hd => (hmem.mp hd).elim (fun hd => (h c hc d hd.1).1) (hwaiting d)
      have hleft : ∀ d ∈ union ((step c).filter fun d => c.offset < d.offset) waiting,
          line.length < d.offset + fuel := by
        intro d hd
        have hlt : c.offset < d.offset := (hmem.mp hd).elim And.right (hahead d)
        have hstart := hfuel c List.mem_cons_self
        omega
      rw [closure, List.mem_cons, ih hon (InOrder.union horder _) hleft]
      constructor
      · rintro (rfl | ⟨d, hd, k, he⟩)
        · exact ⟨e, List.mem_cons_self, 0, rfl⟩
        · rcases hmem.mp hd with ⟨hd, -⟩ | hd
          · exact ⟨c, List.mem_cons_self, k + 1, d, hd, he⟩
          · exact ⟨d, List.mem_cons_of_mem c hd, k, he⟩
      · rintro ⟨d, hd, k, he⟩
        rcases List.mem_cons.mp hd with rfl | hd
        · refine (h.reach_cases hc he).imp_right ?_
          rintro ⟨a, ha, hlt, k, he⟩
          exact ⟨a, hmem.mpr (.inl ⟨ha, hlt⟩), k, he⟩
        · exact .inr ⟨d, hmem.mpr (.inr hd), k, he⟩

/-- A row of more steps than there are characters left has a step that does not advance, which can
be left out and made again. -/
theorem reach_succ_iff (h : Advances line step) (hc : c.On line) (hn : c.rest.length < n) :
    Reach step (n + 1) c e ↔ Reach step n c e := by
  induction n generalizing c with
  | zero => omega
  | succ n ih =>
    -- a step that advances leaves fewer characters
    have hshorter : ∀ d ∈ step c, c.offset < d.offset →
        (Reach step (n + 1) d e ↔ Reach step n d e) := by
      intro d hd hlt
      obtain ⟨hon, -⟩ := h c hc d hd
      have hleft := hc.offset_add
      have hleft' := hon.offset_add
      exact ih hon (by omega)
    constructor
    · rintro ⟨d, hd, he⟩
      rcases h.cases hc hd with rfl | hlt
      · exact he
      · exact ⟨d, hd, (hshorter d hd hlt).mp he⟩
    · rintro ⟨d, hd, he⟩
      rcases h.cases hc hd with rfl | hlt
      · exact ⟨d, hd, d, hd, he⟩
      · exact ⟨d, hd, (hshorter d hd hlt).mpr he⟩

/-- Beyond the number of characters left, the number of steps is of no account. -/
theorem reach_iff_of_lt (h : Advances line step) (hc : c.On line) (hm : c.rest.length < m)
    (hn : c.rest.length < n) : Reach step m c e ↔ Reach step n c e := by
  have key : ∀ k, c.rest.length < k →
      (Reach step k c e ↔ Reach step (c.rest.length + 1) c e) := by
    intro k hk
    induction k, hk using Nat.le_induction with
    | base => exact Iff.rfl
    | succ k hk ih => exact (reach_succ_iff h hc hk).trans ih
  rw [key m hm, key n hn]

/-- Rows of at least so many steps, with the least number cut down to what can matter. -/
theorem exists_reach_iff (h : Advances line step) (hc : c.On line) (least : Nat) :
    (∃ k, Reach step (min least (c.rest.length + 1) + k) c e) ↔
      ∃ n, least ≤ n ∧ Reach step n c e := by
  rcases le_or_gt least (c.rest.length + 1) with hle | hgt
  · rw [min_eq_left hle]
    constructor
    · rintro ⟨k, he⟩
      exact ⟨least + k, Nat.le_add_right _ _, he⟩
    · rintro ⟨n, hn, he⟩
      exact ⟨n - least, by rwa [Nat.add_sub_cancel' hn]⟩
  · rw [min_eq_right hgt.le]
    constructor
    · rintro ⟨k, he⟩
      exact ⟨least, le_refl _, (reach_iff_of_lt h hc (by omega) (by omega)).mp he⟩
    · rintro ⟨n, hn, he⟩
      exact ⟨0, (reach_iff_of_lt h hc (by omega) (by omega)).mp he⟩

/-- The same for rows of at most so many steps. -/
theorem exists_reach_le_iff (h : Advances line step) (hc : c.On line) {least most : Nat}
    (hcounts : least ≤ most) :
    (∃ k ≤ min (most - least) (c.rest.length + 1),
        Reach step (min least (c.rest.length + 1) + k) c e) ↔
      ∃ n, least ≤ n ∧ n ≤ most ∧ Reach step n c e := by
  rcases le_or_gt least (c.rest.length + 1) with hle | hgt
  · rw [min_eq_left hle]
    constructor
    · rintro ⟨k, hk, he⟩
      exact ⟨least + k, by omega, by omega, he⟩
    · rintro ⟨n, hleast, hmost, he⟩
      rcases le_or_gt (n - least) (c.rest.length + 1) with hfew | hmany
      · exact ⟨n - least, by omega, by rwa [Nat.add_sub_cancel' hleast]⟩
      · refine ⟨c.rest.length + 1, by omega, ?_⟩
        exact (reach_iff_of_lt h hc (by omega) (by omega)).mp he
  · rw [min_eq_right hgt.le]
    constructor
    · rintro ⟨k, hk, he⟩
      refine ⟨least, le_refl _, hcounts, ?_⟩
      exact (reach_iff_of_lt h hc (by omega) (by omega)).mp he
    · rintro ⟨n, hleast, hmost, he⟩
      exact ⟨0, by omega, (reach_iff_of_lt h hc (by omega) (by omega)).mp he⟩

end Cursor

-- ---------------------------------------------------------------------------
-- Ends of matches
-- ---------------------------------------------------------------------------

namespace Pattern

open Cursor

variable {p : Pattern} {before hit after rest : Text} {d e : Cursor}

theorem satisfies_between_iff {place : Anchor} :
    (between before after).satisfies place = true ↔ place.HoldsBetween before after := by
  cases place with
  | start => simp [between, satisfies, Anchor.HoldsBetween]
  | lineEnd =>
    rw [satisfies, Bool.or_eq_true]
    exact or_congr decide_eq_true_iff decide_eq_true_iff
  | finish => exact decide_eq_true_iff
  | boundary => simp [between, satisfies, atBoundary, Anchor.HoldsBetween]
  | inside => simp [between, satisfies, atBoundary, isAlone, Anchor.HoldsBetween, imp_iff_not_or]

/-- From the place before a text, the pattern leads to the places behind the stretches that it
matches, and to no others. -/
def Leads (one : (before hit after : Text) → Prop) (before rest : Text) (e : Cursor) : Prop :=
  ∃ hit after, rest = hit ++ after ∧ one before hit after ∧ e = between (before ++ hit) after

/-- A row of steps leads behind a row of stretches. -/
theorem reach_iff_inRow {step : Cursor → List Cursor} {one : (before hit after : Text) → Prop}
    (h : ∀ {before rest e}, e ∈ step (between before rest) ↔ Leads one before rest e) {n : Nat} :
    Reach step n (between before rest) e ↔ Leads (InRow one n) before rest e := by
  induction n generalizing before rest with
  | zero => simp [Reach, Leads, InRow]
  | succ n ih =>
    rw [Reach]
    constructor
    · rintro ⟨d, hd, he⟩
      obtain ⟨first, behind, rfl, hfirst, rfl⟩ := h.mp hd
      obtain ⟨hit, after, rfl, hrow, rfl⟩ := ih.mp he
      exact ⟨first ++ hit, after, (List.append_assoc _ _ _).symm, ⟨first, hit, rfl, hfirst, hrow⟩,
        by rw [List.append_assoc]⟩
    · rintro ⟨hit, after, rfl, ⟨first, hit, rfl, hfirst, hrow⟩, rfl⟩
      refine ⟨between (before ++ first) (hit ++ after), h.mpr ?_, ih.mpr ?_⟩
      · exact ⟨first, hit ++ after, List.append_assoc _ _ _, hfirst, rfl⟩
      · exact ⟨hit, after, rfl, hrow, by rw [List.append_assoc]⟩

/-- What leads behind stretches stays in the text and does not lead back. -/
theorem advances_of_leads {step : Cursor → List Cursor} {one : (before hit after : Text) → Prop}
    (h : ∀ {before rest e}, e ∈ step (between before rest) ↔ Leads one before rest e)
    (line : Text) : Advances line step := by
  rintro c ⟨before, rest, rfl, rfl⟩ d hd
  obtain ⟨hit, after, rfl, -, rfl⟩ := h.mp hd
  refine ⟨⟨before ++ hit, after, (List.append_assoc _ _ _).symm, rfl⟩, ?_⟩
  show before.length ≤ (before ++ hit).length
  rw [List.length_append]
  omega

theorem mem_ends_set_iff {chars : CharSet} :
    e ∈ (set chars).ends (between before rest) ↔ Leads (set chars).Matches before rest e := by
  cases rest with
  | nil => simp [ends, between, Leads, Matches]
  | cons c rest =>
    have hnext : between (before ++ [c]) rest = ⟨before.length + 1, some c, rest⟩ := by
      simp [between]
    have hends : (set chars).ends (between before (c :: rest)) =
        if chars.has c then [between (before ++ [c]) rest] else [] := by
      rw [hnext]
      rfl
    rw [hends, List.mem_ite_nil_right, List.mem_singleton]
    constructor
    · rintro ⟨hhas, rfl⟩
      exact ⟨[c], rest, rfl, ⟨c, rfl, hhas⟩, rfl⟩
    · rintro ⟨hit, after, hsplit, ⟨d, rfl, hhas⟩, rfl⟩
      obtain ⟨rfl, rfl⟩ := List.cons.inj hsplit
      exact ⟨hhas, rfl⟩

theorem mem_ends_anchor_iff {place : Anchor} :
    e ∈ (anchor place).ends (between before rest) ↔ Leads (anchor place).Matches before rest e := by
  rw [ends, List.mem_ite_nil_right, List.mem_singleton, satisfies_between_iff]
  constructor
  · rintro ⟨hholds, rfl⟩
    exact ⟨[], rest, rfl, ⟨rfl, hholds⟩, by rw [List.append_nil]⟩
  · rintro ⟨hit, after, rfl, ⟨rfl, hholds⟩, rfl⟩
    exact ⟨hholds, by rw [List.append_nil, List.nil_append]⟩

theorem mem_ends_seq_iff {first second : Pattern}
    (hfirst : ∀ {before rest e}, e ∈ first.ends (between before rest) ↔
      Leads first.Matches before rest e)
    (hsecond : ∀ {before rest e}, e ∈ second.ends (between before rest) ↔
      Leads second.Matches before rest e) :
    e ∈ (seq first second).ends (between before rest) ↔
      Leads (seq first second).Matches before rest e := by
  have hon : ∀ d ∈ first.ends (between before rest), d.On (before ++ rest) := fun d hd =>
    (advances_of_leads hfirst _ _ (on_between before rest) d hd).1
  rw [ends, mem_stepAll_iff (advances_of_leads hsecond _) hon]
  constructor
  · rintro ⟨d, hd, he⟩
    obtain ⟨s, behind, rfl, hs, rfl⟩ := hfirst.mp hd
    obtain ⟨t, after, rfl, ht, rfl⟩ := hsecond.mp he
    exact ⟨s ++ t, after, (List.append_assoc _ _ _).symm, ⟨s, t, rfl, hs, ht⟩,
      by rw [List.append_assoc]⟩
  · rintro ⟨hit, after, rfl, ⟨s, t, rfl, hs, ht⟩, rfl⟩
    refine ⟨between (before ++ s) (t ++ after), hfirst.mpr ?_, hsecond.mpr ?_⟩
    · exact ⟨s, t ++ after, List.append_assoc _ _ _, hs, rfl⟩
    · exact ⟨t, after, rfl, ht, by rw [List.append_assoc]⟩

theorem mem_ends_alt_iff {left right : Pattern}
    (hleft : ∀ {before rest e}, e ∈ left.ends (between before rest) ↔
      Leads left.Matches before rest e)
    (hright : ∀ {before rest e}, e ∈ right.ends (between before rest) ↔
      Leads right.Matches before rest e) :
    e ∈ (alt left right).ends (between before rest) ↔
      Leads (alt left right).Matches before rest e := by
  have hline := on_between before rest
  rw [ends, mem_union_iff (fun d hd => (advances_of_leads hleft _ _ hline d hd).1)
    (fun d hd => (advances_of_leads hright _ _ hline d hd).1), hleft, hright]
  simp only [Leads, Matches, ← exists_or, and_or_left, or_and_right]

theorem ends_times_none {choice : Choice} (h : choice ≠ .possessive) (body : Pattern) (least : Nat)
    (c : Cursor) : (times choice body least none).ends c =
      closure body.ends (c.rest.length + 1)
        (exactly body.ends (min least (c.rest.length + 1)) [c]) := by
  cases choice with
  | eager => rfl
  | lazy => rfl
  | possessive => exact absurd rfl h

theorem ends_times_some {choice : Choice} (h : choice ≠ .possessive) (body : Pattern)
    (least most : Nat) (c : Cursor) : (times choice body least (some most)).ends c =
      atMost body.ends (min (most - least) (c.rest.length + 1))
        (exactly body.ends (min least (c.rest.length + 1)) [c]) := by
  cases choice with
  | eager => rfl
  | lazy => rfl
  | possessive => exact absurd rfl h

/-- However a repetition is bounded, it leads where an allowed number of steps leads. -/
theorem mem_ends_times_iff {choice : Choice} {body : Pattern} {least : Nat} {most : Option Nat}
    (hchoice : choice ≠ .possessive) (hcounts : ∀ bound ∈ most, least ≤ bound) {line : Text}
    (hbody : Advances line body.ends) {c : Cursor} (hc : c.On line) :
    e ∈ (times choice body least most).ends c ↔
      ∃ n, least ≤ n ∧ (∀ bound ∈ most, n ≤ bound) ∧ Reach body.ends n c e := by
  have hstart : ∀ d ∈ [c], d.On line := List.forall_mem_singleton.mpr hc
  have hmem : ∀ {n d}, d ∈ exactly body.ends n [c] ↔ Reach body.ends n c d := by
    intro n d
    rw [mem_exactly_iff hbody hstart]
    simp only [List.mem_singleton, exists_eq_left]
  have hon : ∀ {n}, ∀ d ∈ exactly body.ends n [c], d.On line ∧ c.offset ≤ d.offset :=
    fun d hd => hbody.reach hc (hmem.mp hd)
  cases most with
  | none =>
    have horder : InOrder [c] := List.pairwise_singleton _ c
    have hfuel : ∀ {n}, ∀ d ∈ exactly body.ends n [c],
        line.length < d.offset + (c.rest.length + 1) := by
      intro n d hd
      have hle := (hon d hd).2
      have hlength := hc.offset_add
      omega
    rw [ends_times_none hchoice, mem_closure_iff hbody (fun d hd => (hon d hd).1)
      (horder.exactly _ _) hfuel]
    simp only [hmem, Option.not_mem_none, false_imp_iff, implies_true, true_and]
    rw [← exists_reach_iff hbody hc]
    simp only [reach_add]
    constructor
    · rintro ⟨d, hd, k, he⟩
      exact ⟨k, d, hd, he⟩
    · rintro ⟨k, d, hd, he⟩
      exact ⟨d, hd, k, he⟩
  | some most =>
    have hcounts : least ≤ most := hcounts most rfl
    rw [ends_times_some hchoice, mem_atMost_iff hbody fun d hd => (hon d hd).1]
    simp only [hmem, Option.mem_some_iff, forall_eq']
    rw [← exists_reach_le_iff hbody hc hcounts]
    simp only [reach_add]
    constructor
    · rintro ⟨d, hd, k, hk, he⟩
      exact ⟨k, hk, d, hd, he⟩
    · rintro ⟨k, hk, d, hd, he⟩
      exact ⟨d, hd, k, hk, he⟩

/-- **The ends of a match are those of the stretches that match.** -/
theorem mem_ends_iff (hp : p.IsRegular = true) :
    e ∈ p.ends (between before rest) ↔ Leads p.Matches before rest e := by
  induction p generalizing before rest e with
  | empty => simp [ends, Leads, Matches]
  | set chars => exact mem_ends_set_iff
  | anchor place => exact mem_ends_anchor_iff
  | seq first second ihfirst ihsecond =>
    obtain ⟨hfirst, hsecond⟩ := (Bool.and_eq_true _ _).mp hp
    exact mem_ends_seq_iff (ihfirst hfirst) (ihsecond hsecond)
  | alt left right ihleft ihright =>
    obtain ⟨hleft, hright⟩ := (Bool.and_eq_true _ _).mp hp
    exact mem_ends_alt_iff (ihleft hleft) (ihright hright)
  | times choice body least most ih =>
    simp only [IsRegular, Bool.and_eq_true, decide_eq_true_eq, Option.all_eq_true] at hp
    obtain ⟨⟨hchoice, hcounts⟩, hbody⟩ := hp
    rw [mem_ends_times_iff hchoice hcounts (advances_of_leads (ih hbody) _)
      (on_between before rest)]
    simp only [reach_iff_inRow (ih hbody), Leads, Matches]
    constructor
    · rintro ⟨n, hleast, hmost, hit, after, hsplit, hrow, he⟩
      exact ⟨hit, after, hsplit, ⟨n, hleast, hmost, hrow⟩, he⟩
    · rintro ⟨hit, after, hsplit, ⟨n, hleast, hmost, hrow⟩, he⟩
      exact ⟨n, hleast, hmost, hit, after, hsplit, hrow, he⟩
  | group body ih => exact ih hp

-- ---------------------------------------------------------------------------
-- Searching
-- ---------------------------------------------------------------------------

theorem ends_ne_nil_iff (hp : p.IsRegular = true) :
    (!(p.ends (between before rest)).isEmpty) = true ↔
      ∃ hit after, rest = hit ++ after ∧ p.Matches before hit after := by
  rw [Bool.not_eq_true', List.isEmpty_eq_false_iff_exists_mem]
  simp only [mem_ends_iff hp, Leads]
  constructor
  · rintro ⟨e, hit, after, hsplit, hmatch, -⟩
    exact ⟨hit, after, hsplit, hmatch⟩
  · rintro ⟨hit, after, hsplit, hmatch⟩
    exact ⟨_, hit, after, hsplit, hmatch, rfl⟩

theorem searchFrom_iff (hp : p.IsRegular = true) :
    p.searchFrom before.length before.getLast? rest = true ↔
      ∃ front hit after, rest = front ++ hit ++ after ∧ p.Matches (before ++ front) hit after := by
  induction rest generalizing before with
  | nil =>
    show (!(p.ends (between before [])).isEmpty) = true ↔ _
    rw [ends_ne_nil_iff hp]
    constructor
    · rintro ⟨hit, after, hsplit, hmatch⟩
      exact ⟨[], hit, after, hsplit, by rwa [List.append_nil]⟩
    · rintro ⟨front, hit, after, hsplit, hmatch⟩
      obtain rfl : front = [] := by simp_all
      exact ⟨hit, after, hsplit, by rwa [List.append_nil] at hmatch⟩
  | cons c rest ih =>
    have hnext : p.searchFrom (before.length + 1) (some c) rest =
        p.searchFrom (before ++ [c]).length (before ++ [c]).getLast? rest := by simp
    show (!(p.ends (between before (c :: rest))).isEmpty ||
      p.searchFrom (before.length + 1) (some c) rest) = true ↔ _
    rw [Bool.or_eq_true, ends_ne_nil_iff hp, hnext, ih]
    constructor
    · rintro (⟨hit, after, hsplit, hmatch⟩ | ⟨front, hit, after, rfl, hmatch⟩)
      · exact ⟨[], hit, after, hsplit, by rwa [List.append_nil]⟩
      · exact ⟨c :: front, hit, after, rfl, by rwa [List.append_assoc] at hmatch⟩
    · rintro ⟨front, hit, after, hsplit, hmatch⟩
      cases front with
      | nil => exact .inl ⟨hit, after, hsplit, by rwa [List.append_nil] at hmatch⟩
      | cons c' front =>
        obtain ⟨rfl, rfl⟩ := List.cons.inj hsplit
        exact .inr ⟨front, hit, after, rfl, by rwa [List.append_assoc]⟩

/-- **The search is sound and complete.** A text has a match exactly if the pattern matches one of
its stretches. -/
theorem search_iff (hp : p.IsRegular = true) {t : Text} :
    p.search t = true ↔ ∃ before hit after, t = before ++ hit ++ after ∧
      p.Matches before hit after :=
  show p.searchFrom ([] : Text).length ([] : Text).getLast? t = true ↔ _ from searchFrom_iff hp

end Pattern
end DelegateAudit

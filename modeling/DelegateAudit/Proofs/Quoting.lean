import Mathlib
import DelegateAudit.Json.Value

/-!
# DelegateAudit — values that can be quoted

A message quotes a value with everything inside of it, from left to right. That fails where values
stand too deep inside each other, and at a whole number with too many digits; whichever comes first
decides how it fails. `Value.Quotable` says when nothing is in the way and `Value.Hinders` what the
first thing in the way is. Both follow the nesting of the value level by level, as quoting does.

Main results:

* `Value.quoteFault?_eq_none_iff` — a value is quoted exactly if it is quotable.
* `Value.quoteFault?_eq_some_iff` — what keeps it from being quoted is the first thing in the way.
-/

namespace DelegateAudit.Json.Value

/-- The values directly inside a value. -/
def inside : Value → List Value
  | .arr items => items
  | .obj members => members.map Prod.snd
  | _ => []

/-- No number in the value has too many digits, and no more than so many values stand one inside
the other. -/
inductive Quotable (digits : Option Nat) : Nat → Value → Prop
  | intro {levels : Nat} {v : Value}
      (hnumber : ∀ n, v = .int n → ∀ most ∈ digits, (Text.ofNat n.natAbs).length ≤ most)
      (hinside : ∀ u ∈ v.inside, Quotable digits levels u) : Quotable digits (levels + 1) v

/-- Going through the value from left to right, this is the first thing in the way of quoting it. -/
inductive Hinders (digits : Option Nat) : Nat → Value → QuoteFault → Prop
  | deep (v : Value) : Hinders digits 0 v .tooDeep
  | number {levels most : Nat} {n : Int} (hmost : most ∈ digits)
      (hmany : most < (Text.ofNat n.natAbs).length) :
      Hinders digits (levels + 1) (.int n) .tooManyDigits
  | inside {levels : Nat} {v u : Value} {front back : List Value} {fault : QuoteFault}
      (hinside : v.inside = front ++ u :: back) (hfront : ∀ w ∈ front, Quotable digits levels w)
      (hu : Hinders digits levels u fault) : Hinders digits (levels + 1) v fault

/-- What is in the way in a value that is no number stands inside of it. -/
theorem quoteFault?_succ {digits : Option Nat} {levels : Nat} {v : Value} (h : ∀ n, v ≠ .int n) :
    quoteFault? digits (levels + 1) v = v.inside.findSome? (quoteFault? digits levels) := by
  cases v with
  | int n => exact absurd rfl (h n)
  | obj members =>
    rw [quoteFault?, inside, List.findSome?_map]
    rfl
  | _ => rfl

theorem quoteFault?_int {digits : Option Nat} {levels : Nat} {n : Int} :
    quoteFault? digits (levels + 1) (.int n) =
      if ∃ most ∈ digits, most < (Text.ofNat n.natAbs).length then some .tooManyDigits
      else none := by
  rw [quoteFault?]
  simp [Option.any_eq_true]

/-- Nothing is in the way of quoting exactly where the value is quotable. -/
theorem quoteFault?_eq_none_iff {digits : Option Nat} {levels : Nat} {v : Value} :
    quoteFault? digits levels v = none ↔ Quotable digits levels v := by
  induction levels generalizing v with
  | zero => exact iff_of_false (by simp [quoteFault?]) nofun
  | succ levels ih =>
    by_cases hint : ∃ n, v = .int n
    · obtain ⟨n, rfl⟩ := hint
      rw [quoteFault?_int]
      constructor
      · intro h
        refine .intro ?_ (by simp [inside])
        intro m hm most hmost
        cases hm
        by_contra hmany
        rw [if_pos ⟨most, hmost, Nat.lt_of_not_le hmany⟩] at h
        cases h
      · intro h
        cases h with
        | intro hnumber =>
          rw [if_neg]
          rintro ⟨most, hmost, hmany⟩
          exact absurd (hnumber n rfl most hmost) (Nat.not_le_of_lt hmany)
    · have hother : ∀ n, v ≠ .int n := fun n hn => hint ⟨n, hn⟩
      rw [quoteFault?_succ hother, List.findSome?_eq_none_iff]
      constructor
      · intro h
        exact .intro (fun n hn => absurd hn (hother n)) fun u hu => ih.mp (h u hu)
      · rintro ⟨-, hinside⟩ u hu
        exact ih.mpr (hinside u hu)

/-- What is found in the way is the first thing that is. -/
theorem quoteFault?_eq_some_iff {digits : Option Nat} {levels : Nat} {v : Value}
    {fault : QuoteFault} :
    quoteFault? digits levels v = some fault ↔ Hinders digits levels v fault := by
  induction levels generalizing v with
  | zero =>
    rw [quoteFault?, Option.some.injEq]
    exact ⟨fun h => h ▸ .deep v, fun h => by cases h; rfl⟩
  | succ levels ih =>
    by_cases hint : ∃ n, v = .int n
    · obtain ⟨n, rfl⟩ := hint
      rw [quoteFault?_int]
      constructor
      · intro h
        split at h
        · next hmany =>
          obtain ⟨most, hmost, hmany⟩ := hmany
          cases h
          exact .number hmost hmany
        · cases h
      · intro h
        cases h with
        | number hmost hmany => exact if_pos ⟨_, hmost, hmany⟩
        | inside hinside => simp [Value.inside] at hinside
    · rw [quoteFault?_succ fun n hn => hint ⟨n, hn⟩, List.findSome?_eq_some_iff]
      constructor
      · rintro ⟨front, u, back, hinside, hu, hfront⟩
        exact .inside hinside (fun w hw => quoteFault?_eq_none_iff.mp (hfront w hw)) (ih.mp hu)
      · intro h
        cases h with
        | number => exact absurd ⟨_, rfl⟩ hint
        | inside hinside hfront hu =>
          exact ⟨_, _, _, hinside, ih.mpr hu,
            fun w hw => quoteFault?_eq_none_iff.mpr (hfront w hw)⟩

end DelegateAudit.Json.Value

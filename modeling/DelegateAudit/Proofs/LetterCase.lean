import DelegateAudit.Pattern.Syntax
import DelegateAudit.Proofs.Decorations

/-!
# DelegateAudit — letters in both cases

What is looked for in bytecode and in listings is looked for in any letter case, and that is done
in two ways: by comparing lower case, and by patterns that take all forms of a letter for one. Both
go through tables that know letters far past ASCII. Here they are shown to mean the same plain
thing, that a letter is written small or as a capital (`Text.IsCaseOf`).

Among ASCII code points this is arithmetic. Past ASCII the tables lead back into ASCII in four
places only: U+0130 and the Kelvin sign are lowered to `i` and `k`, the dotless `i` and the long
`s` share their capitals with `i` and `s`. The other letters have two forms and no third
(`CodePoint.pairedLetters`).

Main results:

* `CodePoint.lower_eq_iff_of_isAscii` — lower case of ASCII code points.
* `CodePoint.lower_eq_iff` — lower case of all code points, for letters with two forms.
* `CodePoint.has_capital_iff` — the same for patterns.
-/

namespace DelegateAudit

-- ---------------------------------------------------------------------------
-- ASCII letters
-- ---------------------------------------------------------------------------

theorem toNat_toLower (c : Char) :
    c.toLower.toNat = if 65 ≤ c.toNat ∧ c.toNat ≤ 90 then c.toNat + 32 else c.toNat := by
  have hcapital : c.val ≥ 'A'.val ∧ c.val ≤ 'Z'.val ↔ 65 ≤ c.toNat ∧ c.toNat ≤ 90 := by
    simp [UInt32.le_iff_toNat_le]
  rw [Char.toLower]
  split_ifs with h hnat hnat
  · show (c.val + 32).toNat = _
    rw [UInt32.toNat_add, Char.toNat_val]
    show (c.toNat + 32) % 4294967296 = _
    omega
  · exact absurd (hcapital.mp h) hnat
  · exact absurd (hcapital.mpr hnat) h
  · rfl

theorem toNat_toUpper (c : Char) :
    c.toUpper.toNat = if 97 ≤ c.toNat ∧ c.toNat ≤ 122 then c.toNat - 32 else c.toNat := by
  have hsmall : c.val ≥ 'a'.val ∧ c.val ≤ 'z'.val ↔ 97 ≤ c.toNat ∧ c.toNat ≤ 122 := by
    simp [UInt32.le_iff_toNat_le]
  rw [Char.toUpper]
  split_ifs with h hnat hnat
  · show (c.val + (65 - 97)).toNat = _
    rw [UInt32.toNat_add, Char.toNat_val]
    show (c.toNat + 4294967264) % 4294967296 = _
    omega
  · exact absurd (hsmall.mp h) hnat
  · exact absurd (hsmall.mpr hnat) h
  · rfl

namespace CodePoint

/-- An ASCII capital. -/
def IsCapital (c : CodePoint) : Prop := 65 ≤ c.value ∧ c.value ≤ 90

instance (c : CodePoint) : Decidable c.IsCapital := inferInstanceAs (Decidable (_ ∧ _))

/-- The capital of an ASCII letter, the code point itself if it is none. -/
def capital : CodePoint → CodePoint
  | .scalar a => .scalar a.toUpper
  | .surrogate s => .surrogate s

theorem isLetterOf_iff {c d : CodePoint} : Text.IsLetterOf c d ↔ c = d ∨ c = d.capital := by
  unfold Text.IsLetterOf
  cases d with
  | scalar a => simp [capital]
  | surrogate s => simp [capital]

theorem eq_scalar_of_isAscii {c : CodePoint} (hc : c.isAscii = true) :
    ∃ a : Char, c = .scalar a ∧ a.toNat < 128 := by
  rw [isAscii, decide_eq_true_eq] at hc
  cases c with
  | scalar a => exact ⟨a, rfl, hc⟩
  | surrogate s =>
    rw [value] at hc
    omega

theorem lower_scalar_of_lt {a : Char} (ha : a.toNat < 128) :
    lower (.scalar a) = .scalar a.toLower := by
  rw [lower, if_pos ha]

/-- An ASCII code point with some lower case is this lower case itself or its capital. -/
theorem lower_eq_iff_of_isAscii {c d : CodePoint} (hc : c.isAscii = true) (hd : ¬ d.IsCapital) :
    c.lower = d ↔ Text.IsLetterOf c d := by
  obtain ⟨a, rfl, ha⟩ := eq_scalar_of_isAscii hc
  rw [lower_scalar_of_lt ha, isLetterOf_iff]
  cases d with
  | surrogate s => simp [capital]
  | scalar b =>
    have hb : ¬ (65 ≤ b.toNat ∧ b.toNat ≤ 90) := hd
    simp only [capital, scalar.injEq, ← Char.toNat_inj, toNat_toLower, toNat_toUpper]
    split_ifs <;> omega

-- ---------------------------------------------------------------------------
-- Past ASCII
-- ---------------------------------------------------------------------------

/-- The small letters that come in two forms: nothing but the letter and its capital. -/
def pairedLetters : Text := "abcdefghjlmnopqrtuvwxyz"

/-- What is not special about them: they are small letters, and not one of the three that are. -/
theorem value_of_mem_pairedLetters : ∀ d ∈ pairedLetters,
    97 ≤ d.value ∧ d.value ≤ 122 ∧ d.value ≠ 0x69 ∧ d.value ≠ 0x6B ∧ d.value ≠ 0x73 ∧
      d.capital.value + 32 = d.value ∧ d.isWord = true ∧ d.capital.isWord = true := by
  decide

/-- The runs of the table start past ASCII, and only the Kelvin sign is led back. -/
theorem lowerRuns_past_ascii : ∀ run ∈ lowerRuns,
    128 ≤ run.first ∧
      (128 ≤ run.target ∨ run.first = 0x212A ∧ run.last = 0x212A ∧ run.target = 0x6B) := by
  decide +kernel

theorem le_value_ofValue {n : Nat} (hn : 128 ≤ n) : 128 ≤ (ofValue n).value := by
  rw [ofValue]
  split_ifs with hsurrogate hlast
  · rw [value]
    omega
  · have hvalid : n.isValidChar := by
      unfold Nat.isValidChar
      omega
    rw [value, Char.toNat_ofNat, if_pos hvalid]
    exact hn
  · decide

/-- The lower case of what is not ASCII is not ASCII either, but for two exceptions. -/
theorem lower_past_ascii {c : CodePoint} (hc : ¬ c.isAscii = true) :
    128 ≤ c.lower.value ∨ c.lower.value = 0x69 ∨ c.lower.value = 0x6B := by
  rw [isAscii, decide_eq_true_eq] at hc
  cases c with
  | surrogate s =>
    left
    rw [lower, value]
    omega
  | scalar a =>
    rw [value] at hc
    rw [lower, if_neg hc]
    split_ifs with hdotted
    · exact .inr (.inl rfl)
    · cases hrun : lowerRuns.find? (·.covers a.toNat) with
      | none =>
        left
        show 128 ≤ a.toNat
        omega
      | some run =>
        obtain ⟨-, hpast | ⟨hfirst, hlast, htarget⟩⟩ :=
          lowerRuns_past_ascii run (List.mem_of_find?_eq_some hrun)
        · exact .inl (le_value_ofValue (by omega))
        · -- the Kelvin sign is a run of its own
          have hcovers := List.find?_some hrun
          simp only [CaseRun.covers, Bool.and_eq_true, decide_eq_true_eq] at hcovers
          have hkelvin : run.target + (a.toNat - run.first) = 0x6B := by omega
          right
          right
          show (ofValue (run.target + (a.toNat - run.first))).value = 0x6B
          rw [hkelvin]
          decide

theorem not_isCapital_lower (c : CodePoint) : ¬ c.lower.IsCapital := by
  by_cases hc : c.isAscii = true
  · obtain ⟨a, rfl, ha⟩ := eq_scalar_of_isAscii hc
    rw [lower_scalar_of_lt ha, IsCapital, value, toNat_toLower]
    split_ifs <;> omega
  · rcases lower_past_ascii hc with h | h | h
    all_goals
      unfold IsCapital
      omega

theorem eq_of_value_eq {c d : CodePoint} (hd : d.value < 128) (h : c.value = d.value) : c = d := by
  cases c with
  | surrogate s =>
    rw [value] at h
    omega
  | scalar a =>
    cases d with
    | surrogate s =>
      rw [value] at hd
      omega
    | scalar b => exact congrArg scalar (Char.toNat_inj.mp h)

/-- **Lower case.** The lower case of a code point is a letter with two forms exactly if the code
point is this letter, small or capital. -/
theorem lower_eq_iff {c d : CodePoint} (hd : d ∈ pairedLetters) :
    c.lower = d ↔ Text.IsLetterOf c d := by
  obtain ⟨hlow, hhigh, hi, hk, -, hcapital, -⟩ := value_of_mem_pairedLetters d hd
  by_cases hc : c.isAscii = true
  · refine lower_eq_iff_of_isAscii hc ?_
    unfold IsCapital
    omega
  · -- nothing past ASCII has this lower case, and both forms are ASCII
    refine iff_of_false ?_ ?_
    · intro h
      have hpast := lower_past_ascii hc
      rw [h] at hpast
      omega
    · rw [isLetterOf_iff]
      rw [isAscii, decide_eq_true_eq] at hc
      rintro (rfl | rfl) <;> omega

-- ---------------------------------------------------------------------------
-- All forms of a letter
-- ---------------------------------------------------------------------------

/-- Small letters that share a capital lie past ASCII, but for two. -/
theorem sharedUpper_past_ascii : ∀ entry ∈ sharedUpper, ∀ n ∈ entry.2,
    128 ≤ n ∨ n = 0x69 ∨ n = 0x73 := by
  decide

theorem mem_shared_past_ascii {m n : Nat} (h : n ∈ (sharedUpper.lookup m).getD []) :
    128 ≤ n ∨ n = 0x69 ∨ n = 0x73 := by
  cases hlookup : sharedUpper.lookup m with
  | none =>
    rw [hlookup] at h
    cases h
  | some shared =>
    rw [hlookup] at h
    obtain ⟨before, after, htable, -⟩ := List.lookup_eq_some_iff.mp hlookup
    exact sharedUpper_past_ascii (m, shared) (by simp [htable]) n h

theorem le_of_covers {run : CaseRun} (hrun : run ∈ lowerRuns) {m : Nat}
    (h : run.covers m = true) : 128 ≤ m := by
  obtain ⟨hfirst, -⟩ := lowerRuns_past_ascii run hrun
  simp only [CaseRun.covers, Bool.and_eq_true, decide_eq_true_eq] at h
  omega

/-- An ASCII capital belongs to one small letter. -/
theorem mem_uppers_iff {m n : Nat} (hm : m < 128) :
    m ∈ uppers n ↔ 97 ≤ n ∧ n ≤ 122 ∧ m + 32 = n := by
  rw [uppers, List.mem_append, List.mem_append, List.mem_filterMap]
  constructor
  · rintro ((hsmall | hdotted) | ⟨run, hrun, hm'⟩)
    · split_ifs at hsmall with h
      · simp only [Bool.and_eq_true, decide_eq_true_eq, List.mem_singleton] at h hsmall
        omega
      · cases hsmall
    · split_ifs at hdotted with h
      · rw [List.mem_singleton] at hdotted
        omega
      · cases hdotted
    · -- what the table gives lies past ASCII
      obtain ⟨hcond, heq⟩ := Option.ite_none_right_eq_some.mp hm'
      cases heq
      have hpast := le_of_covers hrun ((Bool.and_eq_true _ _).mp hcond).2
      omega
  · rintro ⟨hlow, hhigh, rfl⟩
    refine .inl (.inl ?_)
    rw [if_pos (by simp only [Bool.and_eq_true, decide_eq_true_eq]; omega), List.mem_singleton]
    omega

theorem mem_caseForms_iff {c : CodePoint} {m : Nat} :
    m ∈ c.caseForms ↔
      ∃ n, (n = c.lower.value ∨ n ∈ (sharedUpper.lookup c.lower.value).getD []) ∧
        (m = n ∨ m ∈ uppers n) := by
  simp only [caseForms, List.mem_flatMap, List.mem_cons]

/-- **Patterns.** A pattern for a capital, letter case being of no account, takes the capital and
the small letter, if the letter has two forms. -/
theorem has_capital_iff {c d : CodePoint} (hd : d ∈ pairedLetters) :
    CharSet.has ⟨false, [.single d.capital], true⟩ c = true ↔ Text.IsLetterOf c d := by
  obtain ⟨hlow, hhigh, hi, -, hs, hcapital, -⟩ := value_of_mem_pairedLetters d hd
  rw [← lower_eq_iff hd]
  have hhas : CharSet.has ⟨false, [.single d.capital], true⟩ c = true ↔
      d.capital.value ∈ c.caseForms := by
    simp [CharSet.has, SetItem.has]
  rw [hhas, mem_caseForms_iff]
  constructor
  · rintro ⟨n, hn, hform⟩
    rw [mem_uppers_iff (by omega)] at hform
    rcases hn with rfl | hshared
    · rcases hform with hself | ⟨-, -, hupper⟩
      · -- no lower case is a capital
        refine absurd ?_ (not_isCapital_lower c)
        unfold IsCapital
        omega
      · exact eq_of_value_eq (by omega) (by omega)
    · have hpast := mem_shared_past_ascii hshared
      omega
  · intro h
    refine ⟨d.value, .inl (by rw [h]), .inr ?_⟩
    exact (mem_uppers_iff (by omega)).mpr ⟨hlow, hhigh, hcapital⟩

end CodePoint

-- ---------------------------------------------------------------------------
-- Words
-- ---------------------------------------------------------------------------

namespace Text

/-- The word is written with these letters, each small or as a capital. -/
def IsCaseOf (word letters : Text) : Prop := List.Forall₂ IsLetterOf word letters

theorem IsCaseOf.length_eq {word letters : Text} (h : word.IsCaseOf letters) :
    word.length = letters.length := List.Forall₂.length_eq h

/-- Comparing lower case compares letter by letter. -/
theorem map_lower_eq_iff {word letters : Text}
    (h : ∀ c ∈ word, ∀ d ∈ letters, c.lower = d ↔ IsLetterOf c d) :
    word.map CodePoint.lower = letters ↔ word.IsCaseOf letters := by
  unfold IsCaseOf
  induction word generalizing letters with
  | nil => simp [eq_comm]
  | cons c rest ih =>
    cases letters with
    | nil => simp
    | cons d letters =>
      have hrest := ih fun c' hc' d' hd' => h c' (.tail _ hc') d' (.tail _ hd')
      rw [List.map_cons, List.cons.injEq, List.forall₂_cons, h c (.head _) d (.head _), hrest]

end Text
end DelegateAudit

import Mathlib
import DelegateAudit.Bytecode

/-!
# DelegateAudit — hex text and the bytes it spells

`Text.hexPairs` reads two digits at a time and takes either letter case. Its meaning is
fixed here once, so that nothing below looks at single digits again: the lower case of
a text that spells some bytes is the hex text of these bytes (`Spells.lower_eq`), and
cutting the text at a byte boundary cuts the bytes (`Spells.take`).

The search for a needle at even offsets of hex text is then the search for the bytes that
the needle spells (`alignedFind?_hex`). A match that straddles two bytes stands at an odd
offset and has no counterpart among the bytes.

Main results:

* `hexBytes_eq_ok_iff` — the checks on ASCII and on the length of a hex text refuse
  nothing that its pairs would accept.
* `Spells.lower_eq`, `Spells.take` — letter case and cutting.
* `alignedFind?_hex` — text offsets are twice the byte offsets.
* `Bytes.find?_eq_some_iff`, `Bytes.find?_eq_none_iff` — the byte search finds the first
  occurrence, and misses none.
-/

namespace DelegateAudit

/-! ## Digits -/

/-- What holds of the first 128 characters holds of every ASCII code point. -/
theorem CodePoint.forall_ascii {P : CodePoint → Prop}
    (h : ∀ i : Fin 128, P (.scalar (Char.ofNat i))) {c : CodePoint} (hc : c.isAscii = true) :
    P c := by
  cases c with
  | scalar c =>
    have hlt : c.toNat < 128 := by
      rw [isAscii, value, decide_eq_true_eq] at hc
      exact hc
    have hP := h ⟨c.toNat, hlt⟩
    rwa [Char.ofNat_toNat] at hP
  | surrogate s =>
    rw [isAscii, value, decide_eq_true_eq] at hc
    omega

theorem isAscii_of_hexValue? {c : CodePoint} {n : Nat} (h : hexValue? c = some n) :
    c.isAscii = true := by
  cases c with
  | surrogate s => simp [hexValue?] at h
  | scalar c =>
    -- each of the three ranges of digits ends below 128
    have hle : ∀ d : Char, c ≤ d → c.toNat ≤ d.toNat := fun d hd => hd
    rw [CodePoint.isAscii, CodePoint.value, decide_eq_true_eq]
    rw [hexValue?] at h
    split at h
    · next hc => exact lt_of_le_of_lt (hle _ hc.2) (by decide)
    · split at h
      · next hc => exact lt_of_le_of_lt (hle _ hc.2) (by decide)
      · split at h
        · next hc => exact lt_of_le_of_lt (hle _ hc.2) (by decide)
        · simp at h

/-- What the rest of the library needs to know about a digit of value `n`. -/
structure HexDigit (c : CodePoint) (n : Nat) : Prop where
  reads    : hexValue? c = some n
  ascii    : c.isAscii = true
  lt       : n < 16
  lower    : c.lower = hexDigit n
  plain    : c.value ≠ 0x130
  notBlank : c.isBlank = false
  notQuote : c ≠ .scalar '"'
  notMark  : c ≠ .scalar 'x' ∧ c ≠ .scalar 'X'

/-- Everything with a value is a digit. There are 128 candidates. -/
theorem hexDigit_of_hexValue? {c : CodePoint} {n : Nat} (h : hexValue? c = some n) :
    HexDigit c n := by
  have key := CodePoint.forall_ascii (P := fun c => ∀ m ∈ hexValue? c, m < 16 ∧
      c.lower = hexDigit m ∧ c.value ≠ 0x130 ∧ c.isBlank = false ∧ c ≠ .scalar '"' ∧
      c ≠ .scalar 'x' ∧ c ≠ .scalar 'X') (by decide) (isAscii_of_hexValue? h)
  obtain ⟨hlt, hlow, hplain, hblank, hquote, hx⟩ := key n h
  exact ⟨h, isAscii_of_hexValue? h, hlt, hlow, hplain, hblank, hquote, hx⟩

/-! ## Texts that spell bytes -/

namespace Text

/-- A text spells some bytes: two digits for each, the high half first, in any letter case. -/
inductive Spells : Text → Bytes → Prop
  | nil : Spells [] []
  | pair {high low : CodePoint} {h l : Nat} {rest : Text} {bs : Bytes} (hh : HexDigit high h)
      (hl : HexDigit low l) (hrest : Spells rest bs) :
      Spells (high :: low :: rest) (UInt8.ofNat (16 * h + l) :: bs)

theorem spells_of_hexPairs : ∀ {t : Text} {b : Bytes}, hexPairs t = .ok b → Spells t b
  | [], b, hok => by
    injection hok with hok
    subst hok
    exact .nil
  | [_], b, hok => by simp [hexPairs] at hok
  | high :: low :: rest, b, hok => by
    rw [hexPairs] at hok
    split at hok
    · next h l hh hl =>
      cases hrest : hexPairs rest with
      | error fault => simp [hrest, Except.map] at hok
      | ok bs =>
        rw [hrest] at hok
        injection hok with hok
        subst hok
        exact .pair (hexDigit_of_hexValue? hh) (hexDigit_of_hexValue? hl) (spells_of_hexPairs hrest)
    · simp at hok

theorem Spells.hexPairs {t : Text} {b : Bytes} (h : Spells t b) : t.hexPairs = .ok b := by
  induction h with
  | nil => rfl
  | pair hh hl _ ih => simp [Text.hexPairs, hh.reads, hl.reads, ih, Except.map]

theorem Spells.digits {t : Text} {b : Bytes} (h : Spells t b) : ∀ c ∈ t, ∃ n, HexDigit c n := by
  induction h with
  | nil => simp
  | pair hh hl _ ih =>
    intro c hc
    rcases List.mem_cons.mp hc with rfl | hc
    · exact ⟨_, hh⟩
    · rcases List.mem_cons.mp hc with rfl | hc
      · exact ⟨_, hl⟩
      · exact ih c hc

theorem Spells.length_eq {t : Text} {b : Bytes} (h : Spells t b) : t.length = 2 * b.length := by
  induction h with
  | nil => rfl
  | pair _ _ _ ih =>
    simp only [List.length_cons, ih]
    omega

/-- Cutting a text at a byte boundary cuts the bytes that it spells. -/
theorem Spells.take {t : Text} {b : Bytes} (h : Spells t b) (n : Nat) :
    Spells (t.take (2 * n)) (b.take n) := by
  induction h generalizing n with
  | nil => simpa using Spells.nil
  | pair hh hl _ ih =>
    cases n with
    | zero => exact .nil
    | succ n =>
      rw [show 2 * (n + 1) = 2 * n + 1 + 1 by omega]
      exact .pair hh hl (ih n)

/-- Letter case is all that a text adds to the bytes that it spells. -/
theorem Spells.lower_eq {t : Text} {b : Bytes} (h : Spells t b) : t.lower = b.hex := by
  induction h with
  | nil => rfl
  | @pair high low h l rest bs hh hl _ ih =>
    -- the two halves of a byte come apart again
    have hh16 := hh.lt
    have hl16 := hl.lt
    have hbyte : (UInt8.ofNat (16 * h + l)).toNat = 16 * h + l := by
      rw [UInt8.toNat_ofNat']
      omega
    have hdiv : (16 * h + l) / 16 = h := by omega
    have hmod : (16 * h + l) % 16 = l := by omega
    rw [Bytes.hex, List.flatMap_cons, hbyte, hdiv, hmod, ← hh.lower, ← hl.lower, ← Bytes.hex, ← ih]
    -- lower case is taken letter by letter, apart from one letter that is no digit
    simp [lower, hh.plain, hl.plain]

end Text

theorem BadRun.find?_eq_none {bad : CodePoint → Bool} {t : Text} (start : Nat)
    (h : ∀ c ∈ t, bad c = false) : find? bad start t = none := by
  induction t generalizing start with
  | nil => rfl
  | cons c rest ih =>
    rw [find?, h c (by simp)]
    exact ih (start + 1) fun d hd => h d (by simp [hd])

/-- The checks made before the pairs are read refuse nothing that spells bytes. -/
theorem Text.hexBytes_eq_ok_iff {t : Text} {b : Bytes} : t.hexBytes = .ok b ↔ t.Spells b := by
  constructor
  · intro hok
    rw [hexBytes] at hok
    split at hok
    · simp at hok
    · split at hok
      · simp at hok
      · exact spells_of_hexPairs hok
  · intro h
    have hascii : BadRun.find? (fun c => !c.isAscii) 0 t = none := by
      refine BadRun.find?_eq_none 0 fun c hc => ?_
      obtain ⟨n, hn⟩ := h.digits c hc
      rw [hn.ascii]
      rfl
    -- two digits for each byte leave no odd length
    have heven : ¬ t.length % 2 = 1 := by
      have := h.length_eq
      omega
    rw [hexBytes, hascii]
    simp only [heven, if_false]
    exact h.hexPairs

/-! ## Searching bytes -/

namespace Bytes

/-- The offset of the first occurrence of `needle` among bytes. -/
def find? (needle : Bytes) : Bytes → Option Nat
  | [] => if needle.isEmpty then some 0 else none
  | b :: rest =>
    if needle.isPrefixOf (b :: rest) then some 0 else (find? needle rest).map (· + 1)

/-- The bytes before the first occurrence of `needle`, all of them if it does not occur. -/
def before (needle bytes : Bytes) : Bytes :=
  match find? needle bytes with
  | none => bytes
  | some offset => bytes.take offset

theorem find?_eq_some_iff {needle bytes : Bytes} {i : Nat} :
    find? needle bytes = some i ↔
      needle <+: bytes.drop i ∧ ∀ j < i, ¬ needle <+: bytes.drop j := by
  induction bytes generalizing i with
  | nil =>
    cases needle with
    | nil =>
      cases i with
      | zero => simp [find?]
      | succ i =>
        exact iff_of_false (by simp [find?]) fun h => h.2 0 (Nat.zero_lt_succ i) List.nil_prefix
    | cons n ns => simp [find?]
  | cons b rest ih =>
    rw [find?]
    by_cases hpre : needle <+: b :: rest
    · -- found right here, so nothing can be first further on
      rw [if_pos (List.isPrefixOf_iff_prefix.mpr hpre)]
      cases i with
      | zero => simp [hpre]
      | succ i =>
        exact iff_of_false (by simp) fun h => h.2 0 (Nat.zero_lt_succ i) hpre
    · -- not here: offsets in the rest are smaller by one
      rw [if_neg (mt List.isPrefixOf_iff_prefix.mp hpre)]
      cases i with
      | zero => simp [hpre]
      | succ i =>
        rw [Option.map_eq_some_iff]
        simp only [Nat.add_right_cancel_iff, exists_eq_right, ih, List.drop_succ_cons]
        constructor
        · rintro ⟨hi, hmin⟩
          refine ⟨hi, fun j hj => ?_⟩
          cases j with
          | zero => exact hpre
          | succ j => exact hmin j (by omega)
        · rintro ⟨hi, hmin⟩
          exact ⟨hi, fun j hj => hmin (j + 1) (by omega)⟩

theorem find?_eq_none_iff {needle bytes : Bytes} :
    find? needle bytes = none ↔ ¬ needle <:+: bytes := by
  induction bytes with
  | nil => cases needle <;> simp [find?]
  | cons b rest ih =>
    rw [find?, List.infix_cons_iff]
    by_cases hpre : needle <+: b :: rest
    · simp [List.isPrefixOf_iff_prefix.mpr hpre, hpre]
    · rw [if_neg (mt List.isPrefixOf_iff_prefix.mp hpre)]
      simp [ih, hpre]

/-! ## Searching hex text -/

theorem hex_cons (b : UInt8) (rest : Bytes) :
    hex (b :: rest) = hexDigit (b.toNat / 16) :: hexDigit (b.toNat % 16) :: hex rest := rfl

end Bytes

theorem hexDigit_inj {m n : Nat} (hm : m < 16) (hn : n < 16) : hexDigit m = hexDigit n ↔ m = n := by
  have key : ∀ i j : Fin 16, hexDigit i = hexDigit j ↔ (i : Nat) = j := by decide
  exact key ⟨m, hm⟩ ⟨n, hn⟩

/-- Two bytes with the same digits are one byte. -/
theorem hexDigits_eq_iff (a b : UInt8) :
    hexDigit (a.toNat / 16) = hexDigit (b.toNat / 16) ∧
      hexDigit (a.toNat % 16) = hexDigit (b.toNat % 16) ↔ a = b := by
  have ha := a.toNat_lt
  have hb := b.toNat_lt
  rw [hexDigit_inj (by omega) (by omega), hexDigit_inj (by omega) (by omega), ← UInt8.toNat_inj]
  omega

theorem Bytes.hex_prefix_iff {needle bytes : Bytes} :
    hex needle <+: hex bytes ↔ needle <+: bytes := by
  induction needle generalizing bytes with
  | nil => simp [hex]
  | cons n ns ih =>
    cases bytes with
    | nil => simp [hex]
    | cons b bs =>
      rw [hex_cons, hex_cons, List.cons_prefix_cons, List.cons_prefix_cons, ih,
        List.cons_prefix_cons, ← and_assoc, hexDigits_eq_iff]

/-- The even offsets of a hex text are the offsets of its bytes. -/
theorem Text.alignedFind?_hex (needle bytes : Bytes) :
    alignedFind? needle.hex bytes.hex = (Bytes.find? needle bytes).map (2 * ·) := by
  induction bytes with
  | nil => cases needle <;> simp [Bytes.hex, alignedFind?, Bytes.find?]
  | cons b rest ih =>
    -- both searches look at the same place and then go on, by two digits and by one byte
    rw [Bytes.hex_cons, alignedFind?, ← Bytes.hex_cons, Bytes.find?, ih]
    by_cases hpre : needle <+: b :: rest
    · rw [if_pos (List.isPrefixOf_iff_prefix.mpr (Bytes.hex_prefix_iff.mpr hpre)),
        if_pos (List.isPrefixOf_iff_prefix.mpr hpre)]
      rfl
    · rw [if_neg (mt List.isPrefixOf_iff_prefix.mp (mt Bytes.hex_prefix_iff.mp hpre)),
        if_neg (mt List.isPrefixOf_iff_prefix.mp hpre), Option.map_map, Option.map_map]
      congr 1

end DelegateAudit

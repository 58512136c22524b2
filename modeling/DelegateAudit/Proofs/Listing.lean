import DelegateAudit.Disassembler
import DelegateAudit.Listing
import DelegateAudit.Proofs.Hex

/-!
# DelegateAudit — hits in listings

The search for the word DELEGATECALL goes through a line from left to right and remembers
one thing, whether a word character comes just before. `Listing.hasTokenFrom_iff` says what
it finds: the twelve letters in some letter case, with no word character on either side.

In the lines of the byte-wise disassembler the word stands for one byte only, so these lines
have a hit exactly if the code has this byte (`hasHit_byteLines_iff`).
-/

namespace DelegateAudit

namespace Listing

/-- Does a word character come just before what follows the text? If the text is empty, the flag
tells. -/
def endsInWord : (afterWord : Bool) → Text → Bool
  | afterWord, [] => afterWord
  | _, c :: rest => endsInWord c.isWord rest

theorem endsInWord_append (afterWord : Bool) (s t : Text) :
    endsInWord afterWord (s ++ t) = endsInWord (endsInWord afterWord s) t := by
  induction s generalizing afterWord with
  | nil => rfl
  | cons c rest ih => exact ih c.isWord

theorem startsWithToken_iff {t : Text} :
    startsWithToken t = true ↔
      ∃ word back, t = word ++ back ∧ word.map CodePoint.lower = token ∧
        back.head?.any CodePoint.isWord = false := by
  rw [startsWithToken, Bool.and_eq_true, decide_eq_true_eq, Bool.not_eq_true']
  constructor
  · rintro ⟨hword, hback⟩
    exact ⟨_, _, (List.take_append_drop token.length t).symm, hword, hback⟩
  · rintro ⟨word, back, rfl, hword, hback⟩
    -- lower case keeps the length, so the first twelve characters are the word
    have hlen : token.length = word.length := by rw [← hword, List.length_map]
    rw [hlen, List.take_left, List.drop_left]
    exact ⟨hword, hback⟩

/-- What the search finds, wherever it stands. -/
theorem hasTokenFrom_iff {afterWord : Bool} {t : Text} :
    hasTokenFrom afterWord t = true ↔
      ∃ front word back, t = front ++ word ++ back ∧ word.map CodePoint.lower = token ∧
        endsInWord afterWord front = false ∧ back.head?.any CodePoint.isWord = false := by
  induction t generalizing afterWord with
  | nil =>
    refine iff_of_false (by simp [hasTokenFrom]) ?_
    rintro ⟨front, word, back, hnil, hword, -, -⟩
    have hwordNil : word = [] := by simp_all
    rw [hwordNil] at hword
    cases hword
  | cons c rest ih =>
    rw [hasTokenFrom, Bool.or_eq_true, Bool.and_eq_true, Bool.not_eq_true', startsWithToken_iff, ih]
    -- the word starts here, behind the flag, or in the rest, behind this character
    constructor
    · rintro (⟨hafter, word, back, ht, hword, hback⟩ |
        ⟨front, word, back, rfl, hword, hfront, hback⟩)
      · exact ⟨[], word, back, ht, hword, hafter, hback⟩
      · exact ⟨c :: front, word, back, rfl, hword, hfront, hback⟩
    · rintro ⟨front, word, back, ht, hword, hfront, hback⟩
      cases front with
      | nil => exact .inl ⟨hfront, word, back, ht, hword, hback⟩
      | cons d front =>
        obtain ⟨rfl, rfl⟩ := List.cons.inj ht
        exact .inr ⟨front, word, back, rfl, hword, hfront, hback⟩

/-- Numbering hits finds the same as looking for one. -/
theorem hitsFrom_eq_nil_iff {number : Nat} {lines : List Text} :
    hitsFrom number lines = [] ↔ hasHit lines = false := by
  unfold hasHit
  induction lines generalizing number with
  | nil => simp [hitsFrom]
  | cons line rest ih =>
    rw [hitsFrom, List.any_cons]
    cases isHit line with
    | true => simp
    | false => simpa using ih

theorem hitCount_pos_iff {lines : List Text} : 0 < hitCount lines ↔ hasHit lines = true := by
  unfold hitCount hits
  rw [List.length_pos_iff, ne_eq, hitsFrom_eq_nil_iff, Bool.not_eq_false]

end Listing

/-! ## The lines of the byte-wise disassembler -/

theorem exists_digitChar_of_mem_toDigits {n : Nat} {c : Char} (h : c ∈ Nat.toDigits 16 n) :
    ∃ d < 16, c = Nat.digitChar d := by
  induction n using Nat.strong_induction_on with
  | _ n ih =>
    by_cases hn : n < 16
    · rw [Nat.toDigits_of_lt_base hn, List.mem_singleton] at h
      exact ⟨n, hn, h⟩
    · rw [Nat.toDigits_of_base_le (by decide) (by omega), List.mem_append, List.mem_singleton] at h
      rcases h with h | h
      · exact ih (n / 16) (by omega) h
      · exact ⟨n % 16, by omega, h⟩

theorem Text.exists_hexDigit_of_mem_ofHex {width n : Nat} {c : CodePoint} (h : c ∈ ofHex width n) :
    ∃ d < 16, c = hexDigit d := by
  rw [ofHex, List.mem_append] at h
  rcases h with h | h
  · exact ⟨0, by decide, List.eq_of_mem_replicate h⟩
  · obtain ⟨digit, hdigit, rfl⟩ := List.mem_map.mp h
    obtain ⟨d, hd, rfl⟩ := exists_digitChar_of_mem_toDigits hdigit
    exact ⟨d, hd, rfl⟩

/-- A letter of the word that no other line of the disassembler has. -/
theorem lower_ne_of_mem_ofHex {width n : Nat} {c : CodePoint} (h : c ∈ Text.ofHex width n) :
    c.lower ≠ .scalar 'l' := by
  obtain ⟨d, hd, rfl⟩ := Text.exists_hexDigit_of_mem_ofHex h
  have key : ∀ i : Fin 16, (hexDigit i).lower ≠ .scalar 'l' := by decide
  exact key ⟨d, hd⟩

theorem isHit_byteLine_iff (offset : Nat) (byte : UInt8) :
    Listing.isHit (byteLine offset byte) = true ↔ byte = 0xF4 := by
  rw [Listing.isHit, Listing.hasTokenFrom_iff, byteLine]
  by_cases hbyte : byte = 0xF4
  · refine iff_of_true ?_ hbyte
    rw [if_pos hbyte]
    refine ⟨Text.ofHex 8 offset ++ (": " : Text), ("DELEGATECALL" : Text), [],
      (List.append_nil _).symm, by decide, ?_, rfl⟩
    -- what comes just before the word is the blank after the colon
    rw [Listing.endsInWord_append]
    rfl
  · refine iff_of_false ?_ hbyte
    rw [if_neg hbyte]
    rintro ⟨front, word, back, hline, hword, -, -⟩
    -- the word has an `l`, and nothing in the line has
    have hl : .scalar 'l' ∈ word.map CodePoint.lower := by
      rw [hword]
      decide
    obtain ⟨c, hc, hlower⟩ := List.mem_map.mp hl
    have hmem : c ∈ Text.ofHex 8 offset ++ (": " : Text) ++
        (("OP_" : Text) ++ Text.ofHex 2 byte.toNat) := by
      rw [hline]
      simp [hc]
    simp only [List.mem_append] at hmem
    rcases hmem with (hmem | hmem) | hmem | hmem
    · exact lower_ne_of_mem_ofHex hmem hlower
    · have key : ∀ c ∈ (": " : Text), c.lower ≠ .scalar 'l' := by decide
      exact key c hmem hlower
    · have key : ∀ c ∈ ("OP_" : Text), c.lower ≠ .scalar 'l' := by decide
      exact key c hmem hlower
    · exact lower_ne_of_mem_ofHex hmem hlower

/-- The byte-wise disassembler shows a DELEGATECALL exactly where there is one. -/
theorem hasHit_byteLines_iff (offset : Nat) (code : Bytes) :
    Listing.hasHit (byteLines offset code) = true ↔ 0xF4 ∈ code := by
  induction code generalizing offset with
  | nil => simp [byteLines, Listing.hasHit]
  | cons byte rest ih =>
    have hrest := ih (offset + 1)
    rw [Listing.hasHit] at hrest
    rw [byteLines, Listing.hasHit, List.any_cons, Bool.or_eq_true, isHit_byteLine_iff, hrest,
      List.mem_cons, eq_comm]

end DelegateAudit

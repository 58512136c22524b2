import DelegateAudit.Proofs.LetterCase
import DelegateAudit.Proofs.SideBytes
import DelegateAudit.Proofs.StandardPatterns

/-!
# DelegateAudit — the word DELEGATECALL and the lines that have it

Every verdict rests on one question, whether a line has the word DELEGATECALL. The test goes
through the line by hand. It is shown here to be the search for the pattern
`(?i)\bDELEGATECALL\b`, and both to find what `Listing.WholeWord` describes: the twelve letters,
each small or as a capital, between places where no word goes on. An occurrence inside a longer
word does not count, and does not hide a later one.

Three functions use the test: one numbers the hits, one counts them and one asks whether there is
any. The numbers decide the other two, and they are decided by the lines that they number
(`Listing.HitNumbers.eq_hits`).

Main results:

* `Listing.isHit_iff` — what the test finds.
* `Listing.search_wordPattern` — the test is a search for a pattern.
* `Listing.hitNumbers_hits` — the numbers are those of the hits, in order.
* `Listing.hits_of_whole_words` — all of this, and how the numbers of two listings go together.
-/

namespace DelegateAudit

-- ---------------------------------------------------------------------------
-- Patterns of letters in either case
-- ---------------------------------------------------------------------------

namespace Pattern

variable {before hit after : Text}

/-- The pattern of one letter in either case. -/
def letter (d : CodePoint) : Pattern := .set ⟨false, [.single d.capital], true⟩

theorem matches_letter_iff {d : CodePoint} (hd : d ∈ CodePoint.pairedLetters) :
    (letter d).Matches before hit after ↔ ∃ c, hit = [c] ∧ Text.IsLetterOf c d := by
  simp only [letter, Matches, CodePoint.has_capital_iff hd]

theorem matches_sequence_letters {letters : Text} {ps : List Pattern}
    (h : ∀ d ∈ letters, d ∈ CodePoint.pairedLetters) :
    (sequence (letters.map letter ++ ps)).Matches before hit after ↔
      ∃ word t, hit = word ++ t ∧ word.IsCaseOf letters ∧
        (sequence ps).Matches (before ++ word) t after := by
  induction letters generalizing before hit with
  | nil => simp [Text.IsCaseOf]
  | cons d letters ih =>
    obtain ⟨hd, hletters⟩ := List.forall_mem_cons.mp h
    rw [List.map_cons, List.cons_append, matches_sequence_cons]
    simp only [matches_letter_iff hd, ih hletters]
    constructor
    · rintro ⟨_, _, rfl, ⟨c, rfl, hc⟩, word, t, rfl, hword, hmatch⟩
      exact ⟨c :: word, t, rfl, .cons hc hword, by rwa [List.append_assoc] at hmatch⟩
    · rintro ⟨_, t, rfl, hword, hmatch⟩
      obtain ⟨c, word, hc, hrest, rfl⟩ := List.forall₂_cons_right_iff.mp hword
      exact ⟨[c], word ++ t, rfl, ⟨c, rfl, hc⟩, word, t, rfl, hrest, by rwa [List.append_assoc]⟩

end Pattern

namespace Text

theorem IsCaseOf.isWord {word letters : Text} (hword : word.IsCaseOf letters)
    (h : ∀ d ∈ letters, d ∈ CodePoint.pairedLetters) : ∀ c ∈ word, c.isWord = true := by
  unfold IsCaseOf at hword
  induction hword with
  | nil => simp
  | @cons c d word letters hc _ ih =>
    obtain ⟨hd, hletters⟩ := List.forall_mem_cons.mp h
    obtain ⟨-, -, -, -, -, -, hsmall, hcapital⟩ := CodePoint.value_of_mem_pairedLetters d hd
    refine List.forall_mem_cons.mpr ⟨?_, ih hletters⟩
    rcases CodePoint.isLetterOf_iff.mp hc with rfl | rfl
    · exact hsmall
    · exact hcapital

end Text

namespace Listing

-- ---------------------------------------------------------------------------
-- The test of a line
-- ---------------------------------------------------------------------------

/-- The word stands between these two texts: twelve letters, each small or as a capital, and no
word character on either side. -/
structure WholeWord (front word back : Text) : Prop where
  letters : word.IsCaseOf "delegatecall"
  starts  : ∀ c ∈ front.getLast?, c.isWord = false
  ends    : ∀ c ∈ back.head?, c.isWord = false

/-- Each letter of the word has two forms. -/
theorem token_paired : ∀ d ∈ token, d ∈ CodePoint.pairedLetters := by decide

theorem map_lower_eq_token_iff {word : Text} :
    word.map CodePoint.lower = token ↔ word.IsCaseOf token :=
  Text.map_lower_eq_iff fun _ _ d hd => CodePoint.lower_eq_iff (token_paired d hd)

theorem any_isWord_eq_false_iff {neighbour : Option CodePoint} :
    neighbour.any CodePoint.isWord = false ↔ ∀ c ∈ neighbour, c.isWord = false := by
  cases neighbour <;> simp

/-- **What the test finds.** -/
theorem isHit_iff {line : Text} :
    isHit line = true ↔
      ∃ front word back, line = front ++ word ++ back ∧ WholeWord front word back := by
  rw [isHit_iff_hasWord, HasWord]
  simp only [map_lower_eq_token_iff, any_isWord_eq_false_iff]
  constructor
  · rintro ⟨front, word, back, hline, hletters, hstarts, hends⟩
    exact ⟨front, word, back, hline, hletters, hstarts, hends⟩
  · rintro ⟨front, word, back, hline, hletters, hstarts, hends⟩
    exact ⟨front, word, back, hline, hletters, hstarts, hends⟩

/-- A word boundary, the letters, a word boundary. -/
def wordPattern : Pattern :=
  .sequence (.anchor .boundary :: (token.map .letter ++ [.anchor .boundary]))

theorem parse_wordPattern : Pattern.parse "(?i)\\bDELEGATECALL\\b" = .ok wordPattern := by
  decide +kernel

theorem matches_wordPattern_iff_anchors {front word back : Text} :
    wordPattern.Matches front word back ↔
      word.IsCaseOf token ∧ Anchor.boundary.HoldsBetween front (word ++ back) ∧
        Anchor.boundary.HoldsBetween (front ++ word) back := by
  rw [wordPattern, Pattern.matches_sequence_cons]
  simp only [Pattern.matches_sequence_letters token_paired, Pattern.sequence, Pattern.Matches]
  constructor
  · rintro ⟨_, _, rfl, ⟨rfl, hstart⟩, letters, _, rfl, hletters, rfl, hend⟩
    simp only [List.nil_append, List.append_nil] at hstart hend ⊢
    exact ⟨hletters, hstart, hend⟩
  · rintro ⟨hletters, hstart, hend⟩
    exact ⟨[], word, rfl, ⟨rfl, hstart⟩, word, [], (List.append_nil _).symm, hletters, rfl,
      by rwa [List.append_nil]⟩

/-- The word begins and ends with a word character. -/
theorem ends_isWord {word : Text} (h : word.IsCaseOf token) (front back : Text) :
    (word ++ back).head?.any CodePoint.isWord = true ∧
      (front ++ word).getLast?.any CodePoint.isWord = true := by
  have hword := h.isWord token_paired
  have hne : word ≠ [] := by
    rintro rfl
    cases h
  rw [List.head?_append_of_ne_nil _ hne, List.getLast?_append_of_ne_nil _ hne,
    List.head?_eq_some_head hne, List.getLast?_eq_some_getLast hne]
  exact ⟨hword _ (List.head_mem hne), hword _ (List.getLast_mem hne)⟩

theorem matches_wordPattern_iff {front word back : Text} :
    wordPattern.Matches front word back ↔ WholeWord front word back := by
  rw [matches_wordPattern_iff_anchors]
  -- at its inner side a boundary has a letter of the word, so the outer side decides
  constructor
  · rintro ⟨hletters, hstart, hend⟩
    obtain ⟨hhead, hlast⟩ := ends_isWord hletters front back
    rw [Anchor.HoldsBetween, hhead, ne_eq, Bool.not_eq_true] at hstart
    rw [Anchor.HoldsBetween, hlast, ne_comm, ne_eq, Bool.not_eq_true] at hend
    exact ⟨hletters, any_isWord_eq_false_iff.mp hstart, any_isWord_eq_false_iff.mp hend⟩
  · rintro ⟨hletters, hstarts, hends⟩
    obtain ⟨hhead, hlast⟩ := ends_isWord hletters front back
    refine ⟨hletters, ?_, ?_⟩
    · rw [Anchor.HoldsBetween, hhead, any_isWord_eq_false_iff.mpr hstarts]
      exact Bool.false_ne_true
    · rw [Anchor.HoldsBetween, hlast, any_isWord_eq_false_iff.mpr hends]
      exact Bool.false_ne_true.symm

/-- **The test is the search for the pattern.** -/
theorem search_wordPattern (line : Text) : wordPattern.search line = isHit line := by
  rw [Bool.eq_iff_iff, Pattern.search_iff (by decide), isHit_iff]
  simp only [matches_wordPattern_iff]

-- ---------------------------------------------------------------------------
-- The numbers of the hits
-- ---------------------------------------------------------------------------

/-- These are the numbers of the hits, counted from one, in order. -/
structure HitNumbers (lines : List Text) (numbers : List Nat) : Prop where
  increasing : numbers.Pairwise (· < ·)
  mem_iff    : ∀ n, n ∈ numbers ↔ ∃ i line, n = i + 1 ∧ lines[i]? = some line ∧ isHit line = true

/-- The hits are numbered along with all other lines. -/
theorem hitsFrom_eq (number : Nat) (lines : List Text) :
    hitsFrom number lines =
      ((lines.zipIdx number).filter fun item => isHit item.1).map Prod.snd := by
  induction lines generalizing number with
  | nil => rfl
  | cons line rest ih =>
    rw [hitsFrom, ih, List.zipIdx_cons, List.filter_cons]
    split_ifs <;> rfl

theorem hitNumbers_hits (lines : List Text) : HitNumbers lines (hits lines) := by
  rw [hits, hitsFrom_eq]
  constructor
  · -- the numbers of all lines increase, and some of them are kept
    have hall : ((lines.zipIdx 1).map Prod.snd).Pairwise (· < ·) := by
      rw [List.zipIdx_map_snd]
      exact List.pairwise_lt_range'
    exact hall.sublist (List.filter_sublist.map Prod.snd)
  · intro n
    simp only [List.mem_map, List.mem_filter, List.mem_zipIdx_iff_le_and_getElem?_sub]
    constructor
    · rintro ⟨item, ⟨⟨hle, hline⟩, hhit⟩, rfl⟩
      exact ⟨item.2 - 1, item.1, by omega, hline, hhit⟩
    · rintro ⟨i, line, rfl, hline, hhit⟩
      exact ⟨(line, i + 1), ⟨⟨by omega, hline⟩, hhit⟩, rfl⟩

/-- There is only one way to number the hits. -/
theorem HitNumbers.eq_hits {lines : List Text} {numbers : List Nat} (h : HitNumbers lines numbers) :
    numbers = hits lines := by
  have hhits := hitNumbers_hits lines
  refine h.increasing.eq_of_mem_iff hhits.increasing fun n => ?_
  rw [h.mem_iff, hhits.mem_iff]

theorem hitsFrom_add (number shift : Nat) (lines : List Text) :
    hitsFrom (number + shift) lines = (hitsFrom number lines).map (· + shift) := by
  induction lines generalizing number with
  | nil => rfl
  | cons line rest ih =>
    rw [hitsFrom, hitsFrom, Nat.add_right_comm, ih]
    split_ifs <;> rfl

/-- In a longer listing the numbers go on where the first part ends. -/
theorem hits_append (lines more : List Text) :
    hits (lines ++ more) = hits lines ++ (hits more).map (· + lines.length) := by
  rw [hits, hits, hits, ← hitsFrom_add, hitsFrom_eq, hitsFrom_eq, hitsFrom_eq, List.zipIdx_append,
    List.filter_append, List.map_append]

/-- **Hits are lines with the whole word.** A line is a hit exactly if the word stands in it, in any
letter case and with no word character next to it, wherever that is; this is the search for the
pattern. The numbers of the hits increase, and they are the numbers of the lines that are hits; how
many hits there are and whether there are any follows from them. The hits of two listings, one after
the other, are those of the first and then those of the second, moved on by the lines of the
first. -/
theorem hits_of_whole_words (line : Text) (lines more : List Text) :
    (isHit line = true ↔
        ∃ front word back, line = front ++ word ++ back ∧ WholeWord front word back) ∧
      (∃ pattern, Pattern.parse "(?i)\\bDELEGATECALL\\b" = .ok pattern ∧
        pattern.search line = isHit line) ∧
      (hits lines).Pairwise (· < ·) ∧
      (∀ n, n ∈ hits lines ↔
        ∃ i hit, n = i + 1 ∧ lines[i]? = some hit ∧ isHit hit = true) ∧
      hitCount lines = (hits lines).length ∧
      (hasHit lines = true ↔ hits lines ≠ []) ∧
      hits (lines ++ more) = hits lines ++ (hits more).map (· + lines.length) := by
  have hhits := hitNumbers_hits lines
  refine ⟨isHit_iff, ⟨wordPattern, parse_wordPattern, search_wordPattern line⟩, hhits.increasing,
    hhits.mem_iff, rfl, ?_, hits_append lines more⟩
  rw [← hitCount_pos_iff, hitCount, List.length_pos_iff]

/-- An occurrence inside a word neither counts nor hides the next one, and an accented letter is a
letter. -/
example : hits ["\u00e9DELEGATECALL DelegateCall", "delegatecall\u00e9", "_DELEGATECALL",
    "0c:\u00b7delegateCALL"] = [1, 4] := by
  decide

end Listing
end DelegateAudit

import DelegateAudit.Proofs.ExitStatus
import DelegateAudit.Proofs.JsonText
import DelegateAudit.Proofs.ProperTree
import DelegateAudit.Proofs.WholeWord

/-!
# DelegateAudit — what a report says about the hits

Between its heading and its count a report shows the hits: with their numbers, or each with the
lines around it. The lines around a hit are cut out of the listing by two positions that count from
zero and may lie outside of it. In terms of line numbers, which count from one, this is a plain
window: from `reach` lines before the hit, but not before the first line, to `reach` lines behind
it, but not behind the last (`Check.around_eq`). Every hit has a window of its own, so what two
windows share is shown twice.

The console leaves out some characters and fills up tabs. What has none of these is shown as it is,
with a line feed behind it (`Console.printed_of_isPlain`), and nothing that a report adds to the
lines has any.

Main results:

* `Listing.drop_take_eq_linesFromTo` — positions and line numbers.
* `Check.hitTexts_eq_body` — the texts about the hits.
* `Check.report_shows_hits` — the whole report.
-/

namespace DelegateAudit

-- ---------------------------------------------------------------------------
-- Lines by their numbers
-- ---------------------------------------------------------------------------

namespace Listing

/-- The line with a number, lines being counted from one. -/
def lineAt (lines : List Text) (number : Nat) : Text := lines.getD (number - 1) []

/-- The lines with the numbers from `first` to `last`, in order. -/
def linesFromTo (lines : List Text) (first last : Nat) : List Text :=
  (List.range' first (last + 1 - first)).map (lineAt lines)

theorem length_linesFromTo (lines : List Text) (first last : Nat) :
    (linesFromTo lines first last).length = last + 1 - first := by
  rw [linesFromTo, List.length_map, List.length_range']

theorem lineAt_mem_linesFromTo {lines : List Text} {first last number : Nat}
    (hfirst : first ≤ number) (hlast : number ≤ last) :
    lineAt lines number ∈ linesFromTo lines first last :=
  List.mem_map_of_mem (List.mem_range'_1.mpr ⟨hfirst, by omega⟩)

/-- What is cut out by two positions is given by line numbers one higher, and ends with the
listing. -/
theorem drop_take_eq_linesFromTo (lines : List Text) (start stop : Nat) :
    (lines.take stop).drop start = linesFromTo lines (start + 1) (min lines.length stop) := by
  apply List.ext_getElem
  · rw [length_linesFromTo, List.length_drop, List.length_take]
    omega
  · intro i hi _
    rw [List.length_drop, List.length_take] at hi
    simp only [linesFromTo, lineAt, List.getElem_map, List.getElem_range'_1, List.getElem_drop,
      List.getElem_take]
    rw [List.getD_eq_getElem _ _ (by omega)]
    congr 1
    omega

/-- Every number of a hit is the number of a line. -/
theorem HitNumbers.getElem?_eq {lines : List Text} {numbers : List Nat}
    (h : HitNumbers lines numbers) {n : Nat} (hn : n ∈ numbers) :
    1 ≤ n ∧ n ≤ lines.length ∧ lines[n - 1]? = some (lineAt lines n) ∧
      isHit (lineAt lines n) = true := by
  obtain ⟨i, line, rfl, hline, hhit⟩ := (h.mem_iff n).mp hn
  have hlt := (List.getElem?_eq_some_iff.mp hline).1
  have hat : lineAt lines (i + 1) = line := by
    rw [lineAt, Nat.add_sub_cancel, List.getD_eq_getElem?_getD, hline]
    rfl
  rw [hat]
  exact ⟨by omega, by omega, hline, hhit⟩

end Listing

namespace Check

open Listing

-- ---------------------------------------------------------------------------
-- The texts about the hits
-- ---------------------------------------------------------------------------

/-- The lines around the one with a number, as far as there are any. -/
def window (lines : List Text) (reach number : Nat) : List Text :=
  linesFromTo lines (max 1 (number - reach)) (min lines.length (number + reach))

/-- A window, with a heading that tells the how-manieth it is. -/
def block (lines : List Text) (reach : Nat) (hit : Nat × Nat) : List Text :=
  ("---- match " ++ Text.ofNat hit.2 ++ " ----" : Text) :: window lines reach hit.1

/-- What is to be said about the hits: their numbers and lines, or a block for each. -/
def body (lines : List Text) (numbers : List Nat) (reach : Int) : List Text :=
  if reach ≤ 0 then numbers.map fun n => Text.ofNat n ++ ":" ++ lineAt lines n
  else (numbers.zipIdx 1).flatMap (block lines reach.toNat)

variable {lines : List Text} {reach : Int}

theorem around_eq (hreach : 0 < reach) (number : Nat) :
    around lines number reach = window lines reach.toNat number := by
  obtain ⟨r, rfl⟩ := Int.eq_ofNat_of_zero_le hreach.le
  have hstop : takeTo lines (number + (r : Int)) = lines.take (number + r) := by
    rw [takeTo, if_neg (by omega)]
    rfl
  have hfirst : (max 1 ((number : Int) - r) - 1).toNat + 1 = max 1 (number - r) := by omega
  rw [around, hstop, drop_take_eq_linesFromTo, hfirst]
  rfl

theorem blocksFrom_eq (hreach : 0 < reach) (heading : Nat) (numbers : List Nat) :
    blocksFrom lines reach heading (numbers.map Int.ofNat) =
      (numbers.zipIdx heading).flatMap (block lines reach.toNat) := by
  induction numbers generalizing heading with
  | nil => rfl
  | cons number rest ih =>
    rw [List.map_cons, blocksFrom, ih, List.zipIdx_cons, List.flatMap_cons, block,
      ← around_eq hreach]
    rfl

/-- **The texts about the hits.** -/
theorem hitTexts_eq_body (lines : List Text) (reach : Int) :
    hitTexts lines reach = body lines (hits lines) reach := by
  unfold hitTexts body
  split_ifs with hreach
  · rfl
  · exact blocksFrom_eq (by omega) 1 (hits lines)

/-- A window is in the listing, has the hit in it, and is shown in full. -/
theorem window_of_mem {numbers : List Nat} (h : HitNumbers lines numbers) {n : Nat}
    (hn : n ∈ numbers) (reach : Nat) :
    lineAt lines n ∈ window lines reach n ∧
      (window lines reach n).length = min lines.length (n + reach) + 1 - max 1 (n - reach) := by
  obtain ⟨hfirst, hlast, -⟩ := h.getElem?_eq hn
  exact ⟨lineAt_mem_linesFromTo (by omega) (by omega), length_linesFromTo _ _ _⟩

-- ---------------------------------------------------------------------------
-- What follows the count
-- ---------------------------------------------------------------------------

/-- The second look tells nobody but the caller. -/
theorem prints_fullCount (d : Disassembler) (code : Bytecode) : (fullCount d code).prints = [] := by
  have hsilent : (d.listing code).attempt.prints = [] := (d.listing_silent code).1
  rw [fullCount, Run.prints_bind_of_ok (Run.outcome_attempt _), hsilent]
  cases (d.listing code).outcome with
  | ok lines => rfl
  | error fault =>
    cases hfault : fault.isNoLines with
    | true =>
      simp only [hfault, if_true]
      rfl
    | false =>
      simp only [hfault, Bool.false_eq_true, if_false]
      rfl

/-- After the count there is nothing more, or the note about the tail if the count is zero. -/
theorem prints_afterCount (d : Disassembler) (code : Bytecode) (count : Nat) :
    (afterCount d code count).prints = [] ∨
      count = 0 ∧ (afterCount d code count).prints = [tailNote] := by
  rw [afterCount]
  by_cases hcount : count = 0
  · rw [if_pos hcount]
    cases hfull : (fullCount d code).outcome with
    | error fault =>
      left
      rw [Run.prints_bind_of_error hfull, prints_fullCount]
    | ok full =>
      rw [Run.prints_bind_of_ok hfull, prints_fullCount]
      by_cases hfound : 0 < full
      · rw [if_pos hfound]
        exact .inr ⟨hcount, rfl⟩
      · rw [if_neg hfound]
        exact .inl rfl
  · rw [if_neg hcount]
    exact .inl rfl

end Check

-- ---------------------------------------------------------------------------
-- On the console
-- ---------------------------------------------------------------------------

namespace Console

/-- There is nothing in the text that the console would not show as it is. -/
def IsPlain (t : Text) : Prop :=
  ∀ c ∈ t, isControl c = false ∧ c ≠ .scalar '\t' ∧ c ≠ .scalar '\n'

instance (t : Text) : Decidable (IsPlain t) := inferInstanceAs (Decidable (∀ c ∈ t, _))

theorem IsPlain.append {s t : Text} (hs : IsPlain s) (ht : IsPlain t) : IsPlain (s ++ t) :=
  List.forall_mem_append.mpr ⟨hs, ht⟩

theorem isPlain_ofNat (n : Nat) : IsPlain (Text.ofNat n) := by
  intro c hc
  have hdigit := Json.Reader.isDigit_of_mem_ofNat hc
  simp only [Json.Reader.isDigit, CodePoint.between, Bool.and_eq_true, decide_eq_true_eq] at hdigit
  refine ⟨?_, ?_, ?_⟩
  · simp only [isControl, Bool.or_eq_false_iff, decide_eq_false_iff_not]
    omega
  · rintro rfl
    exact absurd hdigit.1 (by decide)
  · rintro rfl
    exact absurd hdigit.1 (by decide)

theorem splitOn_of_not_mem {sep : CodePoint} {t : Text} (h : sep ∉ t) :
    List.splitOn sep t = [t] := by
  refine List.splitOnP_eq_singleton fun c hc => ?_
  rw [beq_eq_false_iff_ne]
  rintro rfl
  exact h hc

theorem printed_of_isPlain {t : Text} (h : IsPlain t) : printed t = t ++ "\n" := by
  have hkept : t.filter (fun c => !isControl c) = t := by
    rw [List.filter_eq_self]
    intro c hc
    rw [(h c hc).1]
    rfl
  have htabs : expandTabs t = t := by
    rw [expandTabs, Text.splitOn_eq, splitOn_of_not_mem fun hc => (h _ hc).2.1 rfl]
    rfl
  rw [printed, shownLines, hkept, splitOn_of_not_mem fun hc => (h _ hc).2.2 rfl,
    List.map_singleton, htabs, Text.join, List.intercalate_singleton]

end Console

namespace Check

open Listing Console

variable {lines : List Text}

theorem isPlain_lineAt (h : ∀ line ∈ lines, IsPlain line) (n : Nat) : IsPlain (lineAt lines n) := by
  rw [lineAt, List.getD_eq_getElem?_getD]
  cases hline : lines[n - 1]? with
  | none => exact fun c hc => absurd hc List.not_mem_nil
  | some line => exact h line (List.mem_of_getElem? hline)

theorem isPlain_body (h : ∀ line ∈ lines, IsPlain line) (numbers : List Nat) (reach : Int) :
    ∀ t ∈ body lines numbers reach, IsPlain t := by
  intro t ht
  have hcolon : IsPlain ":" := by decide
  have hopening : IsPlain "---- match " := by decide
  have hclosing : IsPlain " ----" := by decide
  unfold body at ht
  split_ifs at ht with hreach
  · obtain ⟨n, -, rfl⟩ := List.mem_map.mp ht
    exact ((isPlain_ofNat n).append hcolon).append (isPlain_lineAt h n)
  · obtain ⟨hit, -, hblock⟩ := List.mem_flatMap.mp ht
    rcases List.mem_cons.mp hblock with rfl | hwindow
    · exact (hopening.append (isPlain_ofNat hit.2)).append hclosing
    · obtain ⟨n, -, rfl⟩ := List.mem_map.mp hwindow
      exact isPlain_lineAt h n

/-- What a report adds to the lines is plain. -/
theorem isPlain_report (h : ∀ line ∈ lines, IsPlain line) (numbers : List Nat) (reach : Int)
    {after : List Text} (hafter : ∀ t ∈ after, t = tailNote) :
    ∀ t ∈ heading :: body lines numbers reach ++ [countText numbers.length] ++ after,
      IsPlain t := by
  have hheading : IsPlain heading := by decide +kernel
  have hcount : IsPlain (countText numbers.length) :=
    IsPlain.append (by decide +kernel) (isPlain_ofNat numbers.length)
  have hnote : IsPlain tailNote := by decide +kernel
  rw [List.forall_mem_append, List.forall_mem_append, List.forall_mem_cons,
    List.forall_mem_singleton]
  exact ⟨⟨⟨hheading, isPlain_body h numbers reach⟩, hcount⟩, fun t ht => hafter t ht ▸ hnote⟩

/-- **What a report shows.** Let the code without its tail have some lines, whatever the
disassembler is, and let these be the numbers of the hits among them. Then the report prints its
heading, the body, and how many numbers there are; after that there is at most the note about the
tail. The body has the number and the line of every hit, or if a reach is given, for every hit in
order a heading with a number of its own and all lines from `max 1 (n - reach)` to
`min lines.length (n + reach)`, the line of the hit among them. The console shows each of these
texts on a line of its own, letter by letter unless a line has tabs, line feeds or control
characters in it. -/
theorem report_shows_hits (d : Disassembler) (text : Option Text) (reach : Int) (lines : List Text)
    (numbers : List Nat) (hlines : d.Yields (Bytecode.ofText text).stripped lines)
    (hnumbers : HitNumbers lines numbers) :
    (∃ texts after, (report d text reach).prints = texts ∧
        texts = heading :: body lines numbers reach ++ [countText numbers.length] ++ after ∧
        (after = [] ∨ numbers = [] ∧ after = [tailNote]) ∧
        Console.output (report d text reach).journal = texts.flatMap Console.printed ∧
        ((∀ line ∈ lines, Console.IsPlain line) →
          ∀ t ∈ texts, Console.printed t = t ++ ("\n" : Text))) ∧
      ∀ n ∈ numbers, lines[n - 1]? = some (lineAt lines n) ∧
        lineAt lines n ∈ window lines reach.toNat n ∧
        (window lines reach.toNat n).length =
          min lines.length (n + reach.toNat) + 1 - max 1 (n - reach.toNat) := by
  obtain rfl := hnumbers.eq_hits
  obtain ⟨-, hprints⟩ := report_of_lines reach hlines
  rw [hitTexts_eq_body] at hprints
  have hafter := prints_afterCount d (Bytecode.ofText text) (hitCount lines)
  rw [hitCount, List.length_eq_zero_iff] at hafter
  refine ⟨⟨_, _, rfl, hprints, hafter, Console.output_journal _, fun hplain t ht => ?_⟩,
    fun n hn => ⟨(hnumbers.getElem?_eq hn).2.2.1, window_of_mem hnumbers hn _⟩⟩
  rw [hprints] at ht
  refine printed_of_isPlain (isPlain_report hplain _ _ (fun u hu => ?_) t ht)
  rcases hafter with hnone | ⟨-, hnote⟩
  · rw [hitCount, hnone] at hu
    cases hu
  · rw [hitCount, hnote] at hu
    exact List.mem_singleton.mp hu

/-- Hits in the first and in the last line, closer to each other than twice the reach: both windows
are cut off at one end, and the line between is shown twice. -/
theorem report_shows_hits_overlapping :
    byteDisassembler.Yields (Bytecode.ofText (some ("0xf400f4" : Text))).stripped
        (byteLines 0 [0xf4, 0x00, 0xf4]) ∧
      HitNumbers (byteLines 0 [0xf4, 0x00, 0xf4]) [1, 3] ∧
      (report byteDisassembler (some ("0xf400f4" : Text)) 1).prints =
        [heading, "---- match 1 ----", "00000000: DELEGATECALL", "00000001: OP_00",
          "---- match 2 ----", "00000001: OP_00", "00000002: DELEGATECALL",
          "DELEGATECALL count (reachable): 2"] ∧
      (∀ line ∈ byteLines 0 [0xf4, 0x00, 0xf4], IsPlain line) ∧
      ∀ t ∈ (report byteDisassembler (some ("0xf400f4" : Text)) 1).prints,
        printed t = t ++ ("\n" : Text) := by
  have hlines : byteDisassembler.Yields (Bytecode.ofText (some ("0xf400f4" : Text))).stripped
      (byteLines 0 [0xf4, 0x00, 0xf4]) :=
    Disassembler.outcome_listing_eq_ok_iff_yields.mp (by decide)
  have hnumbers : HitNumbers (byteLines 0 [0xf4, 0x00, 0xf4]) [1, 3] := by
    have hhits : hits (byteLines 0 [0xf4, 0x00, 0xf4]) = [1, 3] := by decide
    rw [← hhits]
    exact hitNumbers_hits _
  have hplain : ∀ line ∈ byteLines 0 [0xf4, 0x00, 0xf4], IsPlain line := by decide
  obtain ⟨⟨texts, after, hprints, htexts, hafter, -, hshown⟩, -⟩ :=
    report_shows_hits byteDisassembler (some "0xf400f4") 1 _ _ hlines hnumbers
  obtain rfl : after = [] := hafter.resolve_right fun h => absurd h.1 (List.cons_ne_nil _ _)
  exact ⟨hlines, hnumbers, hprints.trans (htexts.trans (by decide +kernel)), hplain,
    hprints ▸ hshown hplain⟩

end Check
end DelegateAudit

import DelegateAudit.Proofs.Matching
import DelegateAudit.Proofs.Sources
import DelegateAudit.Proofs.Verdict

/-!
# DelegateAudit — what the built-in patterns find

The built-in patterns are written down as texts. Here they are read, and what they find is said in
plain words (`Delegation`): a call on a target, a call through the library, or inline assembly with
a DELEGATECALL in it. By `Pattern.search_iff` a line matches exactly if one of these stands in it.

A file is searched line by line, and the line feed at the end of a line belongs to it. White space
could take it in, and so could the text in a block of assembly. But a match ends in a parenthesis
or a letter, so it would have to go on behind the line feed, where nothing is left of the line. So
it makes no difference whether a line is taken with its end or without.

Main results:

* `SourcePatterns.standard_patterns` — the built-in patterns as they are read.
* `SourcePatterns.standard_search_iff` — what they find in a line.
* `Text.SplitsInto.any_fileLines` — the lines that are searched are the lines of the text.
* `Text.SplitsInto.isInfix_iff` — what has no line end in it stands in a line or nowhere.
* `SourceMatcher.fileMatches_standard_iff` — what the built-in patterns find in a file.
-/

namespace DelegateAudit

-- ---------------------------------------------------------------------------
-- Patterns of literal text and of repeated sets
-- ---------------------------------------------------------------------------

namespace Pattern

variable {before hit after : Text}

theorem matches_char_iff {c : CodePoint} : (char c).Matches before hit after ↔ hit = [c] := by
  simp [char, Matches, CharSet.has, SetItem.has]

/-- The first of several patterns matches the front. -/
theorem matches_sequence_cons {p : Pattern} {ps : List Pattern} :
    (sequence (p :: ps)).Matches before hit after ↔
      ∃ s t, hit = s ++ t ∧ p.Matches before s (t ++ after) ∧
        (sequence ps).Matches (before ++ s) t after := by
  cases ps with
  | nil => simp [sequence, Matches]
  | cons q rest => rfl

theorem matches_sequence_literal {literal : Text} {ps : List Pattern} :
    (sequence (literal.map char ++ ps)).Matches before hit after ↔
      ∃ t, hit = literal ++ t ∧ (sequence ps).Matches (before ++ literal) t after := by
  induction literal generalizing before hit with
  | nil => simp
  | cons c rest ih =>
    rw [List.map_cons, List.cons_append, matches_sequence_cons]
    simp only [matches_char_iff, ih]
    constructor
    · rintro ⟨_, _, rfl, rfl, t, rfl, hmatch⟩
      exact ⟨t, rfl, by rwa [List.append_assoc] at hmatch⟩
    · rintro ⟨t, rfl, hmatch⟩
      exact ⟨[c], rest ++ t, rfl, rfl, t, rfl, by rwa [List.append_assoc]⟩

theorem matches_literal {literal : Text} :
    (sequence (literal.map char)).Matches before hit after ↔ hit = literal := by
  rw [← List.append_nil (literal.map char), matches_sequence_literal]
  simp [sequence, Matches]

theorem inRow_set_iff {chars : CharSet} {n : Nat} :
    InRow (set chars).Matches n before hit after ↔
      hit.length = n ∧ ∀ c ∈ hit, chars.has c = true := by
  induction n generalizing before hit with
  | zero =>
    rw [InRow, List.length_eq_zero_iff]
    refine (and_iff_left_of_imp ?_).symm
    rintro rfl
    simp
  | succ n ih =>
    constructor
    · rintro ⟨_, rest, rfl, ⟨c, rfl, hc⟩, hrow⟩
      obtain ⟨hlength, hrest⟩ := ih.mp hrow
      exact ⟨congrArg Nat.succ hlength, List.forall_mem_cons.mpr ⟨hc, hrest⟩⟩
    · rintro ⟨hlength, hall⟩
      obtain ⟨c, rest, rfl⟩ := List.exists_cons_of_length_eq_add_one hlength
      obtain ⟨hc, hrest⟩ := List.forall_mem_cons.mp hall
      exact ⟨[c], rest, rfl, ⟨c, rfl, hc⟩, ih.mpr ⟨Nat.succ.inj hlength, hrest⟩⟩

/-- Any number of characters of a set. -/
def many (chars : CharSet) : Pattern := .times .eager (.set chars) 0 none

theorem matches_many_iff {chars : CharSet} :
    (many chars).Matches before hit after ↔ ∀ c ∈ hit, chars.has c = true := by
  rw [many, Matches]
  simp [inRow_set_iff]

end Pattern

-- ---------------------------------------------------------------------------
-- The built-in patterns
-- ---------------------------------------------------------------------------

/-- What marks a DELEGATECALL in source text. -/
inductive Delegation : Text → Prop
  /-- A call on a target. -/
  | onTarget {gap : Text} (hgap : ∀ c ∈ gap, c.isBlank = true) :
      Delegation (".delegatecall" ++ gap ++ "(")
  /-- A call through the library. -/
  | throughLibrary {gap : Text} (hgap : ∀ c ∈ gap, c.isBlank = true) :
      Delegation ("functionDelegateCall" ++ gap ++ "(")
  /-- Inline assembly, up to the first closing brace. -/
  | inAssembly {gap body : Text} (hgap : ∀ c ∈ gap, c.isBlank = true) (hbody : .scalar '}' ∉ body) :
      Delegation ("assembly" ++ gap ++ "\x7b" ++ body ++ "delegatecall")

namespace SourcePatterns

open Pattern

/-- Any number of blanks. -/
def gaps : Pattern := many ⟨false, [.category .blank false], false⟩

/-- A name, blanks and an opening parenthesis. -/
def callOf (name : Text) : Pattern := sequence (name.map char ++ [gaps, char '('])

/-- A block of assembly up to a DELEGATECALL in it. -/
def assemblyBlock : Pattern :=
  sequence (("assembly" : Text).map char ++
    (gaps :: char '{' :: many ⟨true, [.single (.scalar '}')], false⟩ ::
      ("delegatecall" : Text).map char))

/-- The built-in patterns, read. -/
def readings : List Pattern :=
  [callOf ".delegatecall", callOf "functionDelegateCall", assemblyBlock]

theorem standard_patterns : standard.patterns = readings.map Pattern.search := by
  have hread : (standardWritten.mapM Pattern.parse).toOption = some readings := by decide +kernel
  rw [standard, hread]
  rfl

variable {before hit after : Text}

theorem matches_gaps_iff : gaps.Matches before hit after ↔ ∀ c ∈ hit, c.isBlank = true := by
  rw [gaps, matches_many_iff]
  simp [CharSet.has, SetItem.has, Category.has]

theorem matches_callOf_iff {name : Text} :
    (callOf name).Matches before hit after ↔
      ∃ gap, (∀ c ∈ gap, c.isBlank = true) ∧ hit = name ++ gap ++ "(" := by
  rw [callOf, matches_sequence_literal]
  simp only [matches_sequence_cons, matches_gaps_iff, matches_char_iff]
  constructor
  · rintro ⟨_, rfl, gap, _, rfl, hgap, _, _, rfl, rfl, rfl⟩
    exact ⟨gap, hgap, (List.append_assoc _ _ _).symm⟩
  · rintro ⟨gap, hgap, rfl⟩
    exact ⟨gap ++ "(", List.append_assoc _ _ _, gap, "(", rfl, hgap, "(", [], rfl, rfl, rfl⟩

theorem matches_assemblyBlock_iff :
    assemblyBlock.Matches before hit after ↔
      ∃ gap body, (∀ c ∈ gap, c.isBlank = true) ∧ .scalar '}' ∉ body ∧
        hit = ("assembly" : Text) ++ gap ++ "\x7b" ++ body ++ "delegatecall" := by
  have hbrace : ∀ body : Text,
      (∀ c ∈ body, CharSet.has ⟨true, [.single (.scalar '}')], false⟩ c = true) ↔
        .scalar '}' ∉ body := by
    intro body
    simp only [CharSet.has, SetItem.has, List.any_cons, List.any_nil, Bool.or_false, bne_iff_ne,
      ne_eq, Bool.not_eq_true, decide_eq_false_iff_not, Bool.false_eq_true, if_false]
    exact ⟨fun h hmem => h _ hmem rfl, fun h c hc heq => h (heq ▸ hc)⟩
  rw [assemblyBlock, matches_sequence_literal]
  simp only [matches_sequence_cons, matches_gaps_iff, matches_char_iff, matches_many_iff, hbrace,
    matches_literal]
  constructor
  · rintro ⟨_, rfl, gap, _, rfl, hgap, _, _, rfl, rfl, body, _, rfl, hbody, rfl⟩
    refine ⟨gap, body, hgap, hbody, ?_⟩
    simp only [List.append_assoc]
    rfl
  · rintro ⟨gap, body, hgap, hbody, rfl⟩
    refine ⟨gap ++ ([.scalar '{'] ++ (body ++ ("delegatecall" : Text))), ?_, gap, _, rfl, hgap,
      [.scalar '{'], _, rfl, rfl, body, _, rfl, hbody, rfl⟩
    simp only [List.append_assoc]
    rfl

/-- **What the built-in patterns find in a line.** -/
theorem standard_search_iff {line : Text} :
    standard.search line = true ↔ ∃ stretch, stretch <:+: line ∧ Delegation stretch := by
  have hregular : ∀ p ∈ readings, p.IsRegular = true := by decide
  rw [search, standard_patterns, List.any_map, List.any_eq_true]
  constructor
  · rintro ⟨p, hp, hsearch⟩
    obtain ⟨before, hit, after, rfl, hmatch⟩ := (search_iff (hregular p hp)).mp hsearch
    refine ⟨hit, ⟨before, after, rfl⟩, ?_⟩
    simp only [readings, List.mem_cons, List.not_mem_nil, or_false] at hp
    rcases hp with rfl | rfl | rfl
    · obtain ⟨gap, hgap, rfl⟩ := matches_callOf_iff.mp hmatch
      exact .onTarget hgap
    · obtain ⟨gap, hgap, rfl⟩ := matches_callOf_iff.mp hmatch
      exact .throughLibrary hgap
    · obtain ⟨gap, body, hgap, hbody, rfl⟩ := matches_assemblyBlock_iff.mp hmatch
      exact .inAssembly hgap hbody
  · rintro ⟨stretch, ⟨before, after, rfl⟩, hstretch⟩
    have hfound : ∀ p ∈ readings, p.Matches before stretch after →
        ∃ p ∈ readings, p.search (before ++ stretch ++ after) = true := by
      intro p hp hmatch
      exact ⟨p, hp, (search_iff (hregular p hp)).mpr ⟨before, stretch, after, rfl, hmatch⟩⟩
    cases hstretch with
    | onTarget hgap =>
      exact hfound (callOf ".delegatecall") (by simp [readings])
        (matches_callOf_iff.mpr ⟨_, hgap, rfl⟩)
    | throughLibrary hgap =>
      exact hfound (callOf "functionDelegateCall") (by simp [readings])
        (matches_callOf_iff.mpr ⟨_, hgap, rfl⟩)
    | inAssembly hgap hbody =>
      exact hfound assemblyBlock (by simp [readings])
        (matches_assemblyBlock_iff.mpr ⟨_, _, hgap, hbody, rfl⟩)

end SourcePatterns

-- ---------------------------------------------------------------------------
-- Lines
-- ---------------------------------------------------------------------------

namespace Text

/-- No line ends within the text. -/
def OneLine (t : Text) : Prop := ∀ c ∈ t, c ≠ '\n' ∧ c ≠ '\r'

instance (t : Text) : Decidable t.OneLine := inferInstanceAs (Decidable (∀ c ∈ t, _))

/-- What ends a line: a line feed, both characters, or a carriage return that no line feed
follows. -/
def EndsLine (stop rest : Text) : Prop :=
  stop = "\n" ∨ stop = "\r\n" ∨ stop = "\r" ∧ rest.head? ≠ some (.scalar '\n')

/-- The lines of a text, without their ends. -/
inductive SplitsInto : Text → List Text → Prop
  | last {line : Text} (hline : line.OneLine) : SplitsInto line [line]
  | next {line stop rest : Text} {lines : List Text} (hline : line.OneLine)
      (hstop : EndsLine stop rest) (hrest : SplitsInto rest lines) :
      SplitsInto (line ++ stop ++ rest) (line :: lines)

variable {t line stop rest stretch : Text} {lines : List Text}

theorem OneLine.nil : OneLine [] := fun _ hc => absurd hc (List.not_mem_nil)

theorem unifyNewlines_cons {c : CodePoint} (hc : c ≠ '\r') :
    unifyNewlines (c :: rest) = c :: unifyNewlines rest := by
  rw [unifyNewlines]
  · intro _ h
    exact absurd h hc
  · intro h
    exact absurd h hc

theorem OneLine.unifyNewlines_append (hline : line.OneLine) :
    unifyNewlines (line ++ rest) = line ++ unifyNewlines rest := by
  induction line with
  | nil => rfl
  | cons c line ih =>
    obtain ⟨hc, hline⟩ := List.forall_mem_cons.mp hline
    rw [List.cons_append, unifyNewlines_cons hc.2, ih hline, List.cons_append]

theorem EndsLine.unifyNewlines_append (hstop : EndsLine stop rest) :
    unifyNewlines (stop ++ rest) = .scalar '\n' :: unifyNewlines rest := by
  rcases hstop with rfl | rfl | ⟨rfl, hrest⟩
  · exact unifyNewlines_cons (by decide)
  · rfl
  · show unifyNewlines (.scalar '\r' :: rest) = _
    rw [unifyNewlines]
    rintro more rfl
    exact hrest rfl

/-- Every text has lines. -/
theorem exists_splitsInto (t : Text) : ∃ lines, t.SplitsInto lines := by
  fun_induction unifyNewlines t with
  | case1 => exact ⟨_, .last .nil⟩
  | case2 rest ih =>
    obtain ⟨lines, hrest⟩ := ih
    exact ⟨_, .next .nil (.inr (.inl rfl)) hrest⟩
  | case3 rest hnext ih =>
    obtain ⟨lines, hrest⟩ := ih
    refine ⟨_, .next .nil (.inr (.inr ⟨rfl, ?_⟩)) hrest⟩
    intro hhead
    obtain ⟨more, rfl⟩ := List.head?_eq_some_iff.mp hhead
    exact hnext more rfl
  | case4 c rest hboth hreturn ih =>
    obtain ⟨lines, hrest⟩ := ih
    by_cases hfeed : c = '\n'
    · subst hfeed
      exact ⟨_, .next .nil (.inl rfl) hrest⟩
    -- the character goes to the front of the first line
    have hc : c ≠ '\n' ∧ c ≠ '\r' := ⟨hfeed, hreturn⟩
    cases hrest with
    | last hline => exact ⟨_, .last (List.forall_mem_cons.mpr ⟨hc, hline⟩)⟩
    | next hline hstop hrest =>
      exact ⟨_, .next (List.forall_mem_cons.mpr ⟨hc, hline⟩) hstop hrest⟩

theorem OneLine.fileLines_append (hline : line.OneLine) :
    fileLines (line ++ .scalar '\n' :: rest) = (line ++ [.scalar '\n']) :: fileLines rest := by
  induction line with
  | nil => simp [fileLines]
  | cons c line ih =>
    obtain ⟨hc, hline⟩ := List.forall_mem_cons.mp hline
    simp [fileLines, hc.1, ih hline]

theorem OneLine.fileLines_of_ne_nil (hline : line.OneLine) (hne : line ≠ []) :
    fileLines line = [line] := by
  induction line with
  | nil => exact absurd rfl hne
  | cons c line ih =>
    obtain ⟨hc, hline⟩ := List.forall_mem_cons.mp hline
    rw [fileLines, if_neg hc.1]
    rcases eq_or_ne line [] with rfl | hmore
    · rfl
    · rw [ih hline hmore]

/-- **The lines that are searched are the lines of the text**, for a search that finds nothing in
an empty line and makes no difference between a line with its line feed and one without. -/
theorem SplitsInto.any_fileLines {found : Text → Prop} (hempty : ¬ found [])
    (hfeed : ∀ line, found (line ++ [.scalar '\n']) ↔ found line) (hlines : t.SplitsInto lines) :
    (∃ line ∈ t.unifyNewlines.fileLines, found line) ↔ ∃ line ∈ lines, found line := by
  induction hlines with
  | @last line hline =>
    have hunify : unifyNewlines (line ++ []) = line ++ [] := hline.unifyNewlines_append
    rw [List.append_nil] at hunify
    rw [hunify]
    rcases eq_or_ne line [] with rfl | hne
    · simp [fileLines, hempty]
    · rw [hline.fileLines_of_ne_nil hne]
  | next hline hstop _ ih =>
    rw [List.append_assoc, hline.unifyNewlines_append, hstop.unifyNewlines_append,
      hline.fileLines_append, List.exists_mem_cons_iff, List.exists_mem_cons_iff, hfeed, ih]

/-- What has no line end in it stands on one side of a line end. -/
theorem OneLine.isInfix_append_cons {c : CodePoint} (hstretch : stretch.OneLine)
    (hc : c = '\n' ∨ c = '\r') :
    stretch <:+: line ++ c :: rest ↔ stretch <:+: line ∨ stretch <:+: rest := by
  have hnot : ∀ part, part <:+: stretch → c ∉ part := by
    intro part hpart hmem
    obtain ⟨hfeed, hreturn⟩ := hstretch c (hpart.mem hmem)
    exact hc.elim hfeed hreturn
  -- whatever begins at the line end would begin with it
  have hfront : ∀ part, part <:+: stretch → part <+: c :: rest → part = [] := by
    intro part hpart hstarts
    rcases List.prefix_cons_iff.mp hstarts with rfl | ⟨more, rfl, -⟩
    · rfl
    · exact absurd List.mem_cons_self (hnot _ hpart)
  constructor
  · intro h
    rcases List.infix_append_iff_ne_nil.mp h with h | h | ⟨s, u, -, hne, rfl, -, hstarts⟩
    · exact .inl h
    · rcases List.infix_cons_iff.mp h with hstarts | h
      · exact .inl (hfront stretch List.infix_rfl hstarts ▸ List.nil_infix)
      · exact .inr h
    · exact absurd (hfront u (List.suffix_append s u).isInfix hstarts) hne
  · rintro (h | h)
    · exact h.trans (List.prefix_append _ _).isInfix
    · exact h.trans ((List.suffix_cons c rest).trans (List.suffix_append _ _)).isInfix

theorem EndsLine.isInfix_iff (hstop : EndsLine stop rest) (hstretch : stretch.OneLine) :
    stretch <:+: line ++ stop ++ rest ↔ stretch <:+: line ∨ stretch <:+: rest := by
  rw [List.append_assoc]
  rcases hstop with rfl | rfl | ⟨rfl, -⟩
  · exact hstretch.isInfix_append_cons (.inl rfl)
  · have hreturn : stretch <:+: line ++ .scalar '\r' :: ([] ++ .scalar '\n' :: rest) ↔
        stretch <:+: line ∨ stretch <:+: [] ++ .scalar '\n' :: rest :=
      hstretch.isInfix_append_cons (.inr rfl)
    have hfeed : stretch <:+: [] ++ .scalar '\n' :: rest ↔ stretch <:+: [] ∨ stretch <:+: rest :=
      hstretch.isInfix_append_cons (.inl rfl)
    refine hreturn.trans ?_
    rw [hfeed, ← or_assoc]
    exact or_congr_left (or_iff_left_of_imp fun h => h.trans List.nil_infix)
  · exact hstretch.isInfix_append_cons (.inr rfl)

/-- **What has no line end in it stands in a line or nowhere.** -/
theorem SplitsInto.isInfix_iff (hlines : t.SplitsInto lines) (hstretch : stretch.OneLine) :
    stretch <:+: t ↔ ∃ line ∈ lines, stretch <:+: line := by
  induction hlines with
  | last hline => simp
  | next hline hstop _ ih => rw [hstop.isInfix_iff hstretch, ih, List.exists_mem_cons_iff]

theorem SplitsInto.oneLine (hlines : t.SplitsInto lines) : ∀ line ∈ lines, line.OneLine := by
  induction hlines with
  | last hline => simpa using hline
  | next hline _ _ ih => exact List.forall_mem_cons.mpr ⟨hline, ih⟩

end Text

-- ---------------------------------------------------------------------------
-- What the built-in patterns find in a file
-- ---------------------------------------------------------------------------

namespace Delegation

variable {stretch line : Text}

/-- A parenthesis or a letter comes last. -/
theorem getLast?_mem (h : Delegation stretch) :
    stretch.getLast? = some '(' ∨ stretch.getLast? = some 'l' := by
  cases h with
  | onTarget => exact .inl List.getLast?_concat
  | throughLibrary => exact .inl List.getLast?_concat
  | inAssembly => exact .inr (by rw [List.getLast?_append]; rfl)

theorem not_isInfix_nil (h : Delegation stretch) : ¬ stretch <:+: [] := by
  intro hin
  have hlast := h.getLast?_mem
  rw [List.infix_nil.mp hin] at hlast
  simp at hlast

/-- The line feed at the end of a line belongs to no match. -/
theorem isInfix_feed_iff (h : Delegation stretch) :
    stretch <:+: line ++ [.scalar '\n'] ↔ stretch <:+: line := by
  rw [List.infix_concat_iff, or_iff_right_of_imp]
  intro hsuffix
  rcases List.suffix_concat_iff.mp hsuffix with rfl | ⟨part, rfl, -⟩
  · exact List.nil_infix
  · have hlast := h.getLast?_mem
    rw [List.getLast?_concat] at hlast
    exact absurd hlast (by decide)

end Delegation

namespace SourceMatcher

/-- **What the built-in patterns find in a file.** The lines of a text are searched one by one, and
a match never goes from one line to the next. -/
theorem fileMatches_standard_iff (m : SourceMatcher) (path : Path) (content : Bytes)
    (hm : m.patterns = .standard) (hread : m.tree.read path.toText = .ok content) :
    ∃ hit, (m.fileMatches path).outcome = .ok hit ∧
      (∃ lines, content.decodeUtf8Lossy.SplitsInto lines) ∧
      (∀ lines, content.decodeUtf8Lossy.SplitsInto lines →
        (hit = true ↔ ∃ line ∈ lines, ∃ stretch, stretch <:+: line ∧ Delegation stretch)) ∧
      (hit = true ↔ ∃ stretch : Text, stretch <:+: content.decodeUtf8Lossy ∧ stretch.OneLine ∧
        Delegation stretch) := by
  have hlines : ∀ lines, content.decodeUtf8Lossy.SplitsInto lines →
      (contentMatches .standard content = true ↔
        ∃ line ∈ lines, ∃ stretch, stretch <:+: line ∧ Delegation stretch) := by
    intro lines hsplit
    rw [contentMatches, List.any_eq_true]
    simp only [SourcePatterns.standard_search_iff]
    refine hsplit.any_fileLines ?_ ?_
    · rintro ⟨stretch, hin, hstretch⟩
      exact hstretch.not_isInfix_nil hin
    · intro line
      exact exists_congr fun stretch => and_congr_left fun hstretch => hstretch.isInfix_feed_iff
  refine ⟨contentMatches .standard content, ?_, Text.exists_splitsInto _, hlines, ?_⟩
  · simp [fileMatches, hread, hm]
  obtain ⟨lines, hsplit⟩ := Text.exists_splitsInto content.decodeUtf8Lossy
  rw [hlines lines hsplit]
  constructor
  · rintro ⟨line, hline, stretch, hin, hstretch⟩
    have hone : Text.OneLine stretch := fun c hc => hsplit.oneLine line hline c (hin.mem hc)
    exact ⟨stretch, (hsplit.isInfix_iff hone).mpr ⟨line, hline, hin⟩, hone, hstretch⟩
  · rintro ⟨stretch, hin, hone, hstretch⟩
    obtain ⟨line, hline, hin⟩ := (hsplit.isInfix_iff hone).mp hin
    exact ⟨line, hline, stretch, hin, hstretch⟩

/-- A call and a block of assembly, both broken over lines. -/
def brokenText : Text := "t.delegatecall\r\n(d); assembly \x7b\r delegatecall() \x7d\n"

/-- The broken text alone, and once more before a call that stands in one line. -/
def brokenLines : SourceMatcher where
  tree := { entries := [("P.sol", .ofText brokenText),
    ("Q.sol", .ofText (brokenText ++ "a.functionDelegateCall \t(t, d);\r\n"))] }
  root := Path.ofText "."
  patterns := .standard

/-- What is broken over lines stands in the text but is not found. -/
theorem fileMatches_standard_iff_brokenLines :
    (brokenLines.fileMatches (Path.ofText "P.sol")).outcome = .ok false ∧
      (∃ stretch, stretch <:+: brokenText ∧ Delegation stretch) ∧
      (¬ ∃ stretch : Text, stretch <:+: brokenText ∧ stretch.OneLine ∧ Delegation stretch) ∧
      (brokenLines.fileMatches (Path.ofText "Q.sol")).outcome = .ok true := by
  have hbroken : (brokenLines.fileMatches (Path.ofText "P.sol")).outcome = .ok false := by
    decide +kernel
  refine ⟨hbroken, ?_, ?_, ?_⟩
  · have hcall : Delegation ((".delegatecall" : Text) ++ ("\r\n" : Text) ++ ("(" : Text)) :=
      .onTarget (by decide)
    exact ⟨_, by decide, hcall⟩
  · obtain ⟨hit, hhit, -, -, hiff⟩ :=
      fileMatches_standard_iff brokenLines (Path.ofText "P.sol") _ rfl rfl
    have htext : (brokenText.encodeUtf8.toOption.getD []).decodeUtf8Lossy = brokenText := by
      decide +kernel
    obtain rfl := Except.ok.inj (hbroken.symm.trans hhit)
    intro hfound
    exact absurd (hiff.mpr (htext ▸ hfound)) Bool.false_ne_true
  · obtain ⟨hit, hhit, -, -, hiff⟩ :=
      fileMatches_standard_iff brokenLines (Path.ofText "Q.sol") _ rfl rfl
    have hcall : Delegation (("functionDelegateCall" : Text) ++ (" \t" : Text) ++ ("(" : Text)) :=
      .throughLibrary (by decide)
    obtain rfl := hiff.mpr ⟨_, by decide +kernel, by decide, hcall⟩
    exact hhit

end SourceMatcher
end DelegateAudit

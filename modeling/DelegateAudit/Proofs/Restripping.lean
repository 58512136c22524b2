import DelegateAudit.Proofs.Stripping

/-!
# DelegateAudit — stripping a text once more

To strip a bytecode text is to clean it and then to cut its tail off. One would like to do this
twice without harm. Cutting is harmless: what is cut has no tail left before its end, even where
the lower case of the text is longer than the text, so that the cut is made too far to the right
(`Text.cutTail_cutTail`). Cleaning is not. It takes one quote from each end and one `0x` from the
front, and a second cleaning finds what stood behind them; and the cut may lay blanks open that
stood before the tail.

A cleaning that changes anything makes the text shorter, so nothing that comes after it can undo
it. A stripped text therefore stays as it is exactly if there is nothing to clean in it
(`Text.restripped_iff`). For a text that spells bytes this leaves one exception, the doubled `0x`.

Main results:

* `Text.alignedFind?_least` — the offset that is found is the least even one.
* `Text.cutTail_cutTail` — cutting twice is cutting once.
* `Text.cleanHex_eq_self_iff` — what cleaning leaves alone.
* `Text.restripped_iff` — when stripping twice is stripping once.
-/

namespace DelegateAudit.Text

-- ---------------------------------------------------------------------------
-- Cutting
-- ---------------------------------------------------------------------------

/-- The offset found is even, the needle stands there, and it stands at no even offset before. -/
theorem alignedFind?_least {needle : Text} : ∀ {t : Text} {p : Nat},
    alignedFind? needle t = some p →
      Even p ∧ needle <+: t.drop p ∧ ∀ q < p, Even q → ¬ needle <+: t.drop q
  | [], p, h => by
    rw [alignedFind?] at h
    split_ifs at h with hempty
    cases h
    rw [List.isEmpty_iff] at hempty
    simp [hempty]
  | [c], p, h => by
    rw [alignedFind?] at h
    split_ifs at h with hhere
    cases h
    simpa using List.isPrefixOf_iff_prefix.mp hhere
  | a :: b :: rest, p, h => by
    rw [alignedFind?] at h
    split_ifs at h with hhere
    · cases h
      simpa using List.isPrefixOf_iff_prefix.mp hhere
    · obtain ⟨i, hi, rfl⟩ := Option.map_eq_some_iff.mp h
      obtain ⟨heven, hstands, hleast⟩ := alignedFind?_least hi
      refine ⟨heven.add even_two, hstands, ?_⟩
      intro q hlt hq
      -- an even offset is the front or lies two further on
      rcases q with _ | _ | j
      · exact fun hfront => hhere (List.isPrefixOf_iff_prefix.mpr hfront)
      · exact absurd hq Nat.not_even_one
      · obtain ⟨k, hk⟩ := hq
        have hj : Even j := ⟨k - 1, by omega⟩
        exact hleast j (by omega) hj

theorem cutTail_of_none {t : Text} (h : t.tailOffset? = none) : t.cutTail = t := by
  rw [cutTail, h]

theorem cutTail_of_some {t : Text} {p : Nat} (h : t.tailOffset? = some p) :
    t.cutTail = t.take p := by
  rw [cutTail, h]

theorem cutTail_isPrefix (t : Text) : t.cutTail <+: t := by
  cases h : t.tailOffset? with
  | none => rw [cutTail_of_none h]
  | some p =>
    rw [cutTail_of_some h]
    exact List.take_prefix p t

/-- Lower case is made code point by code point. -/
theorem lower_isPrefix {s t : Text} (h : s <+: t) : s.lower <+: t.lower := by
  obtain ⟨rest, rfl⟩ := h
  rw [lower, lower, List.flatMap_append]
  exact List.prefix_append _ _

/-- **Cutting twice is cutting once.** -/
theorem cutTail_cutTail (t : Text) : t.cutTail.cutTail = t.cutTail := by
  cases hp : t.tailOffset? with
  | none =>
    have hself := cutTail_of_none hp
    rw [hself, hself]
  | some p =>
    cases hq : t.cutTail.tailOffset? with
    | none => exact cutTail_of_none hq
    | some q =>
      obtain ⟨-, -, hleast⟩ := alignedFind?_least hp
      obtain ⟨heven, hstands, -⟩ := alignedFind?_least hq
      -- a tail of the cut text is one of the text, so it is not before the first
      have hlower : t.cutTail.lower <+: t.lower := lower_isPrefix (cutTail_isPrefix t)
      have hle : p ≤ q := by
        by_contra hlt
        exact hleast q (by omega) heven (hstands.trans (hlower.drop q))
      have hshort : t.cutTail.length ≤ p := by
        rw [cutTail_of_some hp]
        exact List.length_take_le p t
      rw [cutTail_of_some hq, List.take_of_length_le (by omega)]

-- ---------------------------------------------------------------------------
-- Cleaning
-- ---------------------------------------------------------------------------

/-- There is no `0x` in front. -/
def IsUnmarked (t : Text) : Prop := ¬ ("0x" : Text) <+: t ∧ ¬ ("0X" : Text) <+: t

/-- There is nothing to clean: neither blanks nor quotes at the ends, and no `0x` in front. -/
structure IsClean (t : Text) : Prop where
  opens    : ∀ c ∈ t.head?, c.isBlank = false ∧ c ≠ .scalar '"'
  closes   : ∀ c ∈ t.getLast?, c.isBlank = false ∧ c ≠ .scalar '"'
  unmarked : t.IsUnmarked

theorem stripLeft_isSuffix (t : Text) : t.stripLeft <:+ t := List.dropWhile_suffix _

theorem stripRight_eq (t : Text) : t.stripRight = (stripLeft t.reverse).reverse := rfl

theorem stripRight_isPrefix (t : Text) : t.stripRight <+: t := by
  rw [stripRight_eq, ← List.reverse_suffix, List.reverse_reverse]
  exact stripLeft_isSuffix t.reverse

theorem strip_isInfix (t : Text) : t.strip <:+: t :=
  (stripRight_isPrefix t.stripLeft).isInfix.trans (stripLeft_isSuffix t).isInfix

theorem dropOpeningQuote_isSuffix (t : Text) : t.dropOpeningQuote <:+ t := by
  unfold dropOpeningQuote
  split
  · exact List.suffix_cons _ _
  · exact List.suffix_refl _

theorem dropClosingQuote_isPrefix (t : Text) : t.dropClosingQuote <+: t := by
  unfold dropClosingQuote
  split_ifs
  · exact List.dropLast_prefix t
  · exact List.prefix_refl t

theorem dropHexMark_isSuffix (t : Text) : t.dropHexMark <:+ t := by
  rcases dropHexMark_cases t with hself | ⟨x, -, ht⟩
  · rw [hself]
  · exact ⟨[.scalar '0', x], ht.symm⟩

theorem stripLeft_eq_self_iff {t : Text} :
    t.stripLeft = t ↔ ∀ c ∈ t.head?, c.isBlank = false := by
  rw [stripLeft, List.dropWhile_eq_self_iff]
  cases t with
  | nil => simp
  | cons c rest => simp

theorem stripRight_eq_self_iff {t : Text} :
    t.stripRight = t ↔ ∀ c ∈ t.getLast?, c.isBlank = false := by
  rw [stripRight_eq, List.reverse_eq_iff, stripLeft_eq_self_iff, List.head?_reverse]

theorem strip_eq_self_iff {t : Text} :
    t.strip = t ↔ t.stripLeft = t ∧ t.stripRight = t := by
  constructor
  · intro h
    have hleft := (stripLeft_isSuffix t).length_le
    have hright := (stripRight_isPrefix t.stripLeft).length_le
    have hlength : t.strip.length = t.length := congrArg List.length h
    rw [strip] at hlength
    have hself : t.stripLeft = t := (stripLeft_isSuffix t).eq_of_length (by omega)
    refine ⟨hself, ?_⟩
    rw [strip, hself] at h
    exact h
  · rintro ⟨hleft, hright⟩
    rw [strip, hleft, hright]

theorem dropOpeningQuote_eq_self_iff {t : Text} :
    t.dropOpeningQuote = t ↔ ∀ c ∈ t.head?, c ≠ .scalar '"' := by
  unfold dropOpeningQuote
  split
  · next rest => simp
  · next hother =>
    refine iff_of_true rfl ?_
    rintro c hc rfl
    obtain ⟨rest, rfl⟩ := List.head?_eq_some_iff.mp hc
    exact hother rest rfl

theorem dropClosingQuote_eq_self_iff {t : Text} :
    t.dropClosingQuote = t ↔ ∀ c ∈ t.getLast?, c ≠ .scalar '"' := by
  unfold dropClosingQuote
  split_ifs with hquote
  · have hne : t ≠ [] := by
      rintro rfl
      cases hquote
    have hshorter : t.dropLast.length < t.length := by
      have hpos := List.length_pos_iff.mpr hne
      rw [List.length_dropLast]
      omega
    refine iff_of_false (fun h => ?_) (fun h => h _ hquote rfl)
    rw [h] at hshorter
    exact lt_irrefl _ hshorter
  · refine iff_of_true rfl ?_
    rintro c hc rfl
    exact hquote hc

theorem dropHexMark_eq_self_iff {t : Text} : t.dropHexMark = t ↔ t.IsUnmarked := by
  constructor
  · intro h
    -- a text with a mark in front gets shorter by two
    constructor
    · rintro ⟨rest, rfl⟩
      have hlength : rest.length = rest.length + 2 := congrArg List.length h
      omega
    · rintro ⟨rest, rfl⟩
      have hlength : rest.length = rest.length + 2 := congrArg List.length h
      omega
  · rintro ⟨hsmall, hlarge⟩
    rcases dropHexMark_cases t with hself | ⟨x, rfl | rfl, ht⟩
    · exact hself
    · exact absurd ⟨t.dropHexMark, ht.symm⟩ hsmall
    · exact absurd ⟨t.dropHexMark, ht.symm⟩ hlarge

/-- Cleaning goes from a text to a part of it. -/
theorem cleanHex_isInfix (t : Text) : t.cleanHex <:+: t :=
  (dropHexMark_isSuffix _).isInfix.trans <| (strip_isInfix _).trans <|
    (dropClosingQuote_isPrefix _).isInfix.trans <| (dropOpeningQuote_isSuffix _).isInfix.trans <|
      strip_isInfix t

/-- Every step of cleaning takes something away or does nothing, so the whole does nothing only if
every step does. -/
theorem cleanHex_eq_self_iff_steps {t : Text} :
    t.cleanHex = t ↔
      t.strip = t ∧ t.dropOpeningQuote = t ∧ t.dropClosingQuote = t ∧ t.dropHexMark = t := by
  constructor
  · intro h
    have hlength : t.cleanHex.length = t.length := congrArg List.length h
    rw [cleanHex] at hlength
    have hblanks := (strip_isInfix t).length_le
    have hopening := (dropOpeningQuote_isSuffix t.strip).length_le
    have hclosing := (dropClosingQuote_isPrefix t.strip.dropOpeningQuote).length_le
    have hinner := (strip_isInfix t.strip.dropOpeningQuote.dropClosingQuote).length_le
    have hmark := (dropHexMark_isSuffix t.strip.dropOpeningQuote.dropClosingQuote.strip).length_le
    have hstrip : t.strip = t := (strip_isInfix t).eq_of_length (by omega)
    rw [hstrip] at hlength hopening hclosing hinner hmark
    have hopen : t.dropOpeningQuote = t := (dropOpeningQuote_isSuffix t).eq_of_length (by omega)
    rw [hopen] at hlength hclosing hinner hmark
    have hclose : t.dropClosingQuote = t := (dropClosingQuote_isPrefix t).eq_of_length (by omega)
    rw [hclose, hstrip] at hlength
    have hunmarked : t.dropHexMark = t := (dropHexMark_isSuffix t).eq_of_length hlength
    exact ⟨hstrip, hopen, hclose, hunmarked⟩
  · rintro ⟨hstrip, hopen, hclose, hunmarked⟩
    rw [cleanHex, hstrip, hopen, hclose, hstrip, hunmarked]

/-- **Cleaning leaves clean texts alone, and no others.** -/
theorem cleanHex_eq_self_iff {t : Text} : t.cleanHex = t ↔ t.IsClean := by
  rw [cleanHex_eq_self_iff_steps, strip_eq_self_iff, stripLeft_eq_self_iff, stripRight_eq_self_iff,
    dropOpeningQuote_eq_self_iff, dropClosingQuote_eq_self_iff, dropHexMark_eq_self_iff]
  constructor
  · rintro ⟨⟨hleft, hright⟩, hopen, hclose, hunmarked⟩
    exact ⟨fun c hc => ⟨hleft c hc, hopen c hc⟩, fun c hc => ⟨hright c hc, hclose c hc⟩, hunmarked⟩
  · intro h
    exact ⟨⟨fun c hc => (h.opens c hc).1, fun c hc => (h.closes c hc).1⟩,
      fun c hc => (h.opens c hc).2, fun c hc => (h.closes c hc).2, h.unmarked⟩

-- ---------------------------------------------------------------------------
-- Stripping
-- ---------------------------------------------------------------------------

/-- What a cut left is stripped without loss exactly if it is clean. -/
theorem stripTail_eq_self_iff {t : Text} (hcut : t.cutTail = t) : t.stripTail = t ↔ t.IsClean := by
  rw [← cleanHex_eq_self_iff]
  constructor
  · intro h
    have hlength : t.cleanHex.cutTail.length = t.length := congrArg List.length h
    have hcutle := (cutTail_isPrefix t.cleanHex).length_le
    have hcleanle := (cleanHex_isInfix t).length_le
    exact (cleanHex_isInfix t).eq_of_length (by omega)
  · intro h
    rw [stripTail, h, hcut]

/-- A text that spells bytes is clean. -/
theorem Spells.isClean {t : Text} {b : Bytes} (h : Spells t b) : t.IsClean := by
  rw [← cleanHex_eq_self_iff, h.isBare.cleanHex, h.dropHexMark]

/-- A stripped hex text is clean exactly if there was no mark to be seen before the cut. -/
theorem isClean_stripTail_iff {t : Text} {b : Bytes} (h : t.cleanHex.dropHexMark.Spells b) :
    t.stripTail.IsClean ↔ t.cleanHex.IsUnmarked := by
  rw [← dropHexMark_eq_self_iff]
  rcases dropHexMark_cases t.cleanHex with hself | ⟨x, hx, hmarked⟩
  · rw [hself] at h
    exact iff_of_true h.cutTail.isClean hself
  · -- the mark is as long as a byte, so the cut leaves it in front
    have hcut : t.stripTail = .scalar '0' :: x :: t.cleanHex.dropHexMark.cutTail := by
      rw [stripTail, hmarked, cutTail_marked hx, ← hmarked]
    refine iff_of_false ?_ ?_
    · intro hclean
      obtain ⟨hsmall, hlarge⟩ := hclean.unmarked
      rw [hcut] at hsmall hlarge
      rcases hx with rfl | rfl
      · exact hsmall (List.prefix_append ("0x" : Text) _)
      · exact hlarge (List.prefix_append ("0X" : Text) _)
    · intro hself
      have hlength := congrArg List.length hmarked
      rw [hself, List.length_cons, List.length_cons] at hlength
      omega

/-- **When stripping twice is stripping once.** It is exactly if the stripped text has no blanks and
quotes at its ends and no `0x` in front. For a text whose code decodes only the `0x` can be there,
so it must not have been written twice. -/
theorem restripped_iff (t : Text) :
    (t.stripTail.stripTail = t.stripTail ↔ t.stripTail.IsClean) ∧
      ∀ b, (Bytecode.ofText (some t)).toBytes = .ok b →
        (t.stripTail.stripTail = t.stripTail ↔ t.cleanHex.IsUnmarked) := by
  have hcut : t.stripTail.cutTail = t.stripTail := cutTail_cutTail t.cleanHex
  have hiff := stripTail_eq_self_iff hcut
  refine ⟨hiff, ?_⟩
  intro b hb
  have hspells : t.cleanHex.dropHexMark.Spells b := Bytecode.toBytes_eq_ok_iff.mp hb
  rw [hiff, isClean_stripTail_iff hspells]

/-- Quotes, blanks, one `0x` and a tail. -/
def wrappedText : Text := (" \"0X60F4A2646970667358f4\"\n" : String)

/-- The code of the wrapped text decodes and is stripped once and for all. -/
theorem restripped_iff_wrapped :
    (Bytecode.ofText (some wrappedText)).toBytes =
        .ok [0x60, 0xF4, 0xA2, 0x64, 0x69, 0x70, 0x66, 0x73, 0x58, 0xF4] ∧
      wrappedText.stripTail.stripTail = wrappedText.stripTail := by
  have hdecodes : (Bytecode.ofText (some wrappedText)).toBytes =
      .ok [0x60, 0xF4, 0xA2, 0x64, 0x69, 0x70, 0x66, 0x73, 0x58, 0xF4] := by decide
  refine ⟨hdecodes, ((restripped_iff wrappedText).2 _ hdecodes).mpr ?_⟩
  have hclean : wrappedText.cleanHex = "60F4A2646970667358f4" := by decide
  rw [hclean, IsUnmarked]
  decide

/-- A doubled `0x` goes one at a time. -/
theorem restripped_doubled_mark :
    stripTail "0x0x60" = ("0x60" : Text) ∧
      stripTail (stripTail "0x0x60") = ("60" : Text) ∧
      stripTail (stripTail "0x0x60") ≠ stripTail "0x0x60" := by
  decide

end DelegateAudit.Text

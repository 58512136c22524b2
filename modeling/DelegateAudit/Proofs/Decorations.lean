import DelegateAudit.Disassembler
import DelegateAudit.Proofs.Restripping

/-!
# DelegateAudit — hex text and what may stand around it

Bytes are written as hex digits in either letter case, and the digits come decorated: with `0x` in
front, and on each side with blanks, a quote and more blanks. `Text.Decorates` says which texts
these are. Cleaning gives the digits back, to the letter, and decoding gives the bytes back
(`Bytecode.toBytes_inverts_hex`).

A decoration need not be symmetric, so cleaning may meet a quote at one end and blanks at the other.
With no digits at all and a single quote, the quote at the end is also the one in front, and it is
the first step that takes it. The other way round, a text that does not decode has something else
than digits in it, or an odd number of them, once a `0x` is set aside; and there is only one kind
of fault.

Main results:

* `Text.cleanHex_of_decorates` — cleaning undoes every decoration.
* `Text.exists_spells_iff` — the texts that spell bytes.
* `Bytecode.toBytes_inverts_hex` — decoding and encoding are inverse, and when decoding fails.
-/

namespace DelegateAudit

namespace Text

-- ---------------------------------------------------------------------------
-- Ways to write bytes
-- ---------------------------------------------------------------------------

/-- The code points are the same letter, or the first is the capital of the second. -/
def IsLetterOf (c d : CodePoint) : Prop := c = d ∨ ∃ a : Char, d = .scalar a ∧ c = .scalar a.toUpper

/-- The hex digits of some bytes, each in either letter case. -/
def SpellingOf (b : Bytes) (digits : Text) : Prop := List.Forall₂ IsLetterOf digits b.hex

def IsBlank (t : Text) : Prop := ∀ c ∈ t, c.isBlank = true

instance (t : Text) : Decidable t.IsBlank := inferInstanceAs (Decidable (∀ c ∈ t, _))

/-- What may stand on one side of hex text: blanks, at most one quote, blanks. -/
inductive Trimming : Text → Prop
  | plain {outer : Text} (h : outer.IsBlank) : Trimming outer
  | quoted {outer inner : Text} (h : outer.IsBlank) (h' : inner.IsBlank) :
      Trimming (outer ++ .scalar '"' :: inner)

/-- What may stand in front of hex digits: nothing, or `0x` in either letter case. -/
def hexMarks : List Text := ["", "0x", "0X"]

/-- The text is the digits with `0x` or nothing in front, and something to trim on each side. -/
inductive Decorates (digits : Text) : Text → Prop
  | around {left mark right : Text} (hleft : Trimming left) (hmark : mark ∈ hexMarks)
      (hright : Trimming right) : Decorates digits (left ++ (mark ++ digits) ++ right)

/-- The ASCII hex digits. -/
def hexAlphabet : Text := "0123456789abcdefABCDEF"

/-- An even number of hex digits, after `0x` or nothing. -/
def IsMarkedHex (t : Text) : Prop :=
  ∃ mark ∈ hexMarks, ∃ digits, t = mark ++ digits ∧ Even digits.length ∧
    ∀ c ∈ digits, c ∈ hexAlphabet

-- ---------------------------------------------------------------------------
-- Digits
-- ---------------------------------------------------------------------------

theorem hexDigit_of_isLetterOf {c : CodePoint} {n : Nat} (hn : n < 16)
    (h : IsLetterOf c (hexDigit n)) : HexDigit c n := by
  -- sixteen digits, and the capital of each
  have hsmall : ∀ i : Fin 16, hexValue? (hexDigit i) = some (i : Nat) := by decide
  have hlarge : ∀ i : Fin 16, hexValue? (.scalar (Nat.digitChar i).toUpper) = some (i : Nat) := by
    decide
  rcases h with rfl | ⟨a, ha, rfl⟩
  · exact hexDigit_of_hexValue? (hsmall ⟨n, hn⟩)
  · cases ha
    exact hexDigit_of_hexValue? (hlarge ⟨n, hn⟩)

theorem SpellingOf.spells {b : Bytes} {digits : Text} (h : SpellingOf b digits) :
    digits.Spells b := by
  unfold SpellingOf at h
  induction b generalizing digits with
  | nil =>
    cases h
    exact .nil
  | cons byte rest ih =>
    rw [Bytes.hex_cons] at h
    obtain ⟨high, behind, hhigh, hbehind, rfl⟩ := List.forall₂_cons_right_iff.mp h
    obtain ⟨low, further, hlow, hfurther, rfl⟩ := List.forall₂_cons_right_iff.mp hbehind
    have hbyte := byte.toNat_lt
    have hhalves : UInt8.ofNat (16 * (byte.toNat / 16) + byte.toNat % 16) = byte := by
      rw [Nat.div_add_mod, UInt8.ofNat_toNat]
    rw [← hhalves]
    exact .pair (hexDigit_of_isLetterOf (by omega) hhigh) (hexDigit_of_isLetterOf (by omega) hlow)
      (ih hfurther)

theorem spellingOf_hex (b : Bytes) : SpellingOf b b.hex :=
  List.forall₂_same.mpr fun _ _ => .inl rfl

theorem isSome_hexValue?_iff {c : CodePoint} : (hexValue? c).isSome = true ↔ c ∈ hexAlphabet := by
  constructor
  · intro h
    obtain ⟨n, hn⟩ := Option.isSome_iff_exists.mp h
    have key := CodePoint.forall_ascii (P := fun c => (hexValue? c).isSome = true → c ∈ hexAlphabet)
      (by decide) (isAscii_of_hexValue? hn)
    exact key h
  · have key : ∀ c ∈ hexAlphabet, (hexValue? c).isSome = true := by decide
    exact key c

theorem exists_hexDigit_of_mem {c : CodePoint} (h : c ∈ hexAlphabet) : ∃ n, HexDigit c n := by
  obtain ⟨n, hn⟩ := Option.isSome_iff_exists.mp (isSome_hexValue?_iff.mpr h)
  exact ⟨n, hexDigit_of_hexValue? hn⟩

theorem exists_spells_of_digits : ∀ {t : Text}, Even t.length → (∀ c ∈ t, c ∈ hexAlphabet) →
    ∃ b, t.Spells b
  | [], _, _ => ⟨[], .nil⟩
  | [_], heven, _ => absurd heven Nat.not_even_one
  | high :: low :: rest, heven, h => by
    obtain ⟨m, hhigh⟩ := exists_hexDigit_of_mem (h high (by simp))
    obtain ⟨n, hlow⟩ := exists_hexDigit_of_mem (h low (by simp))
    have hrest : Even rest.length := by
      rw [List.length_cons, List.length_cons, add_assoc] at heven
      exact (Nat.even_add.mp heven).mpr even_two
    obtain ⟨b, hb⟩ := exists_spells_of_digits hrest fun c hc => h c (by simp [hc])
    exact ⟨_, .pair hhigh hlow hb⟩

/-- The texts that spell bytes are the even numbers of hex digits. -/
theorem exists_spells_iff {t : Text} :
    (∃ b, t.Spells b) ↔ Even t.length ∧ ∀ c ∈ t, c ∈ hexAlphabet := by
  constructor
  · rintro ⟨b, hb⟩
    refine ⟨⟨b.length, ?_⟩, ?_⟩
    · rw [hb.length_eq]
      omega
    · intro c hc
      obtain ⟨n, hn⟩ := hb.digits c hc
      exact isSome_hexValue?_iff.mp (by rw [hn.reads]; rfl)
  · rintro ⟨heven, h⟩
    exact exists_spells_of_digits heven h

theorem dropHexMark_append {mark digits : Text} {b : Bytes} (hmark : mark ∈ hexMarks)
    (h : digits.Spells b) : (mark ++ digits).dropHexMark = digits := by
  rcases List.mem_cons.mp hmark with rfl | hmark
  · exact h.dropHexMark
  · rcases List.mem_cons.mp hmark with rfl | hmark
    · rfl
    · obtain rfl := List.mem_singleton.mp hmark
      rfl

theorem isMarkedHex_iff {t : Text} : t.IsMarkedHex ↔ ∃ b, t.dropHexMark.Spells b := by
  constructor
  · rintro ⟨mark, hmark, digits, rfl, hdigits⟩
    obtain ⟨b, hb⟩ := exists_spells_iff.mpr hdigits
    exact ⟨b, by rwa [dropHexMark_append hmark hb]⟩
  · intro h
    have hdigits := exists_spells_iff.mp h
    rcases dropHexMark_cases t with hself | ⟨x, rfl | rfl, ht⟩
    · rw [hself] at hdigits
      exact ⟨"", by decide, t, rfl, hdigits⟩
    · exact ⟨"0x", by decide, t.dropHexMark, ht, hdigits⟩
    · exact ⟨"0X", by decide, t.dropHexMark, ht, hdigits⟩

-- ---------------------------------------------------------------------------
-- Trimming
-- ---------------------------------------------------------------------------

theorem stripLeft_append_of_isBlank {outer : Text} (h : outer.IsBlank) (t : Text) :
    stripLeft (outer ++ t) = stripLeft t := List.dropWhile_append_of_pos h

theorem IsBlank.reverse {t : Text} (h : t.IsBlank) : IsBlank t.reverse :=
  fun c hc => h c (List.mem_reverse.mp hc)

theorem stripRight_append_of_isBlank {outer : Text} (h : outer.IsBlank) (t : Text) :
    stripRight (t ++ outer) = stripRight t := by
  rw [stripRight_eq, List.reverse_append, stripLeft_append_of_isBlank h.reverse, ← stripRight_eq]

/-- Blanks go from both ends of a text that has none at its own. -/
theorem strip_surrounded {outer core outer' : Text} (h : outer.IsBlank) (h' : outer'.IsBlank)
    (hfirst : ∀ c ∈ core.head?, c.isBlank = false)
    (hlast : ∀ c ∈ core.getLast?, c.isBlank = false) :
    strip (outer ++ core ++ outer') = core := by
  rw [strip, List.append_assoc, stripLeft_append_of_isBlank h]
  cases core with
  | nil =>
    -- nothing but blanks
    have hnone : stripLeft outer' = [] := List.dropWhile_eq_nil_iff.mpr h'
    rw [List.nil_append, hnone]
    rfl
  | cons c rest =>
    have hself : stripLeft (c :: rest ++ outer') = c :: rest ++ outer' :=
      stripLeft_eq_self_iff.mpr hfirst
    rw [hself, stripRight_append_of_isBlank h', stripRight_eq_self_iff.mpr hlast]

theorem IsBlank.append {s t : Text} (hs : s.IsBlank) (ht : t.IsBlank) : (s ++ t).IsBlank :=
  List.forall_mem_append.mpr ⟨hs, ht⟩

theorem IsBlank.not_quote {t : Text} (h : t.IsBlank) : .scalar '"' ∉ t := by
  intro hmem
  exact absurd (h _ hmem) (by decide)

theorem IsBare.first {t : Text} (h : t.IsBare) : ∀ c ∈ t.head?, c.isBlank = false :=
  fun c hc => (h c (List.mem_of_head? hc)).1

theorem IsBare.last {t : Text} (h : t.IsBare) : ∀ c ∈ t.getLast?, c.isBlank = false :=
  fun c hc => (h c (List.mem_of_getLast? hc)).1

theorem IsBare.not_quote {t : Text} (h : t.IsBare) : .scalar '"' ∉ t :=
  fun hmem => (h _ hmem).2 rfl

/-- Cleaning without its last step, which takes `0x` away. -/
def unwrap (t : Text) : Text := t.strip.dropOpeningQuote.dropClosingQuote.strip

theorem cleanHex_eq (t : Text) : t.cleanHex = t.unwrap.dropHexMark := rfl

theorem dropClosingQuote_concat (t : Text) : dropClosingQuote (t ++ [.scalar '"']) = t := by
  rw [dropClosingQuote, List.getLast?_concat, if_pos rfl, List.dropLast_concat]

/-- A quote alone is the one in front. -/
theorem unwrap_quote {outer outer' : Text} (h : outer.IsBlank) (h' : outer'.IsBlank) :
    unwrap (outer ++ [.scalar '"'] ++ outer') = [] := by
  have hquote : ∀ c ∈ ([.scalar '"'] : Text).head?, c.isBlank = false := by decide
  rw [unwrap, strip_surrounded h h' hquote hquote]
  rfl

/-- Blanks inside the quotes go with the second stripping. -/
theorem unwrap_of_strip {t inner core inner' : Text} (h : inner.IsBlank) (hcore : core.IsBare)
    (h' : inner'.IsBlank)
    (ht : t.strip.dropOpeningQuote.dropClosingQuote = inner ++ core ++ inner') :
    t.unwrap = core := by
  rw [unwrap, ht, strip_surrounded h h' hcore.first hcore.last]

theorem isBlank_nil : IsBlank [] := fun _ hc => absurd hc List.not_mem_nil

theorem quote_first (t : Text) : ∀ c ∈ (.scalar '"' :: t : Text).head?, c.isBlank = false := by
  rintro c ⟨⟩
  decide

theorem quote_last (t : Text) : ∀ c ∈ (t ++ [.scalar '"'] : Text).getLast?, c.isBlank = false := by
  rw [List.getLast?_concat]
  rintro c ⟨⟩
  decide

/-- A quote at the end only. -/
theorem unwrap_closed {left core inner outer : Text} (h : left.IsBlank) (hcore : core.IsBare)
    (hinner : inner.IsBlank) (houter : outer.IsBlank) :
    unwrap (left ++ core ++ (inner ++ .scalar '"' :: outer)) = core := by
  rcases core with _ | ⟨c, rest⟩
  · -- the closing quote stands in front
    have htext : left ++ [] ++ (inner ++ .scalar '"' :: outer) =
        left ++ inner ++ [.scalar '"'] ++ outer := by simp
    rw [htext]
    exact unwrap_quote (h.append hinner) houter
  · have htext : left ++ c :: rest ++ (inner ++ .scalar '"' :: outer) =
        left ++ (c :: rest ++ inner ++ [.scalar '"']) ++ outer := by simp
    have hstrip : strip (left ++ (c :: rest ++ inner ++ [.scalar '"']) ++ outer) =
        c :: rest ++ inner ++ [.scalar '"'] :=
      strip_surrounded h houter hcore.first (quote_last _)
    have hopens : dropOpeningQuote (c :: rest ++ inner ++ [.scalar '"']) =
        c :: rest ++ inner ++ [.scalar '"'] :=
      dropOpeningQuote_eq_self_iff.mpr fun d hd => (hcore d (List.mem_of_head? hd)).2
    refine unwrap_of_strip isBlank_nil hcore hinner ?_
    rw [htext, hstrip, hopens]
    exact dropClosingQuote_concat _

/-- A quote in front only. -/
theorem unwrap_opened {outer inner core right : Text} (houter : outer.IsBlank)
    (hinner : inner.IsBlank) (hcore : core.IsBare) (h : right.IsBlank) :
    unwrap (outer ++ .scalar '"' :: inner ++ core ++ right) = core := by
  rcases core.eq_nil_or_concat' with rfl | ⟨front, last, rfl⟩
  · have htext : outer ++ .scalar '"' :: inner ++ [] ++ right =
        outer ++ [.scalar '"'] ++ (inner ++ right) := by simp
    rw [htext]
    exact unwrap_quote houter (hinner.append h)
  · have htext : outer ++ .scalar '"' :: inner ++ (front ++ [last]) ++ right =
        outer ++ .scalar '"' :: (inner ++ (front ++ [last])) ++ right := by simp
    have hlast : ∀ c ∈ (.scalar '"' :: (inner ++ (front ++ [last])) : Text).getLast?,
        c.isBlank = false := by
      simpa [List.getLast?_cons] using hcore.last
    have hstrip : strip (outer ++ .scalar '"' :: (inner ++ (front ++ [last])) ++ right) =
        .scalar '"' :: (inner ++ (front ++ [last])) :=
      strip_surrounded houter h (quote_first _) hlast
    have hnone : .scalar '"' ∉ inner ++ (front ++ [last]) := by
      rw [List.mem_append, not_or]
      exact ⟨hinner.not_quote, hcore.not_quote⟩
    refine unwrap_of_strip hinner hcore isBlank_nil ?_
    rw [htext, hstrip, List.append_nil]
    exact dropClosingQuote_eq_self hnone

/-- Quotes at both ends. -/
theorem unwrap_quoted {outer inner core inner' outer' : Text} (houter : outer.IsBlank)
    (hinner : inner.IsBlank) (hcore : core.IsBare) (hinner' : inner'.IsBlank)
    (houter' : outer'.IsBlank) :
    unwrap (outer ++ .scalar '"' :: inner ++ core ++ (inner' ++ .scalar '"' :: outer')) = core := by
  have htext : outer ++ .scalar '"' :: inner ++ core ++ (inner' ++ .scalar '"' :: outer') =
      outer ++ (.scalar '"' :: (inner ++ core ++ inner') ++ [.scalar '"']) ++ outer' := by simp
  have hstrip :
      strip (outer ++ (.scalar '"' :: (inner ++ core ++ inner') ++ [.scalar '"']) ++ outer') =
        .scalar '"' :: (inner ++ core ++ inner') ++ [.scalar '"'] :=
    strip_surrounded houter houter' (quote_first _) (quote_last _)
  refine unwrap_of_strip hinner hcore hinner' ?_
  rw [htext, hstrip]
  exact dropClosingQuote_concat _

/-- Whatever is to be trimmed on its two sides, a text without blanks and quotes is left. -/
theorem unwrap_trimming {left core right : Text} (hleft : Trimming left) (hcore : core.IsBare)
    (hright : Trimming right) : unwrap (left ++ core ++ right) = core := by
  cases hleft with
  | plain h =>
    cases hright with
    | plain h' =>
      refine unwrap_of_strip isBlank_nil hcore isBlank_nil ?_
      rw [strip_surrounded h h' hcore.first hcore.last, dropOpeningQuote_eq_self hcore.not_quote,
        dropClosingQuote_eq_self hcore.not_quote, List.nil_append, List.append_nil]
    | quoted hinner houter => exact unwrap_closed h hcore hinner houter
  | quoted houter hinner =>
    cases hright with
    | plain h => exact unwrap_opened houter hinner hcore h
    | quoted hinner' houter' => exact unwrap_quoted houter hinner hcore hinner' houter'

theorem IsBare.marked {mark digits : Text} (hmark : mark ∈ hexMarks) (h : digits.IsBare) :
    (mark ++ digits).IsBare := by
  have hmarks : ∀ mark ∈ hexMarks, ∀ c ∈ mark, c.isBlank = false ∧ c ≠ .scalar '"' := by decide
  exact List.forall_mem_append.mpr ⟨hmarks mark hmark, h⟩

/-- **Cleaning undoes every decoration.** -/
theorem cleanHex_of_decorates {digits text : Text} {b : Bytes} (hspells : digits.Spells b)
    (h : Decorates digits text) : text.cleanHex = digits := by
  cases h with
  | around hleft hmark hright =>
    rw [cleanHex_eq, unwrap_trimming hleft (hspells.isBare.marked hmark) hright,
      dropHexMark_append hmark hspells]

theorem decorates_castInput (b : Bytes) : Decorates b.hex (castInput b) := by
  have hdecorates : Decorates b.hex ([] ++ (("0x" : Text) ++ b.hex) ++ []) :=
    .around (.plain isBlank_nil) (by decide) (.plain isBlank_nil)
  rwa [List.nil_append, List.append_nil] at hdecorates

end Text

-- ---------------------------------------------------------------------------
-- Decoding
-- ---------------------------------------------------------------------------

namespace Bytecode

/-- A text with the digits of some bytes gives the digits and the bytes back. -/
theorem ofText_of_decorates {b : Bytes} {digits text : Text} (hdigits : Text.SpellingOf b digits)
    (htext : Text.Decorates digits text) :
    (ofText (some text)).hex = digits ∧ (ofText (some text)).toBytes = .ok b := by
  have hspells := hdigits.spells
  have hhex : (ofText (some text)).hex = digits := Text.cleanHex_of_decorates hspells htext
  refine ⟨hhex, toBytes_eq_ok_iff.mpr ?_⟩
  rw [hhex, hspells.dropHexMark]
  exact hspells

theorem exists_toBytes_iff {code : Bytecode} :
    (∃ b, code.toBytes = .ok b) ↔ code.hex.IsMarkedHex := by
  simp only [toBytes_eq_ok_iff, Text.isMarkedHex_iff]

theorem eq_undecodable_of_toBytes {code : Bytecode} {fault : Fault}
    (h : code.toBytes = .error fault) : ∃ cause, fault = .undecodable code.hex.length cause := by
  rw [toBytes] at h
  cases hread : code.hex.dropHexMark.hexBytes with
  | ok b => simp [hread, Except.mapError] at h
  | error cause =>
    rw [hread] at h
    cases h
    exact ⟨cause, rfl⟩

/-- **Decoding and encoding are inverse.** Hex digits of some bytes, in any letter case and with any
decoration, are cleaned to these digits and decoded to these bytes; so is what the disassembling
program is given to read. A text is refused exactly if its cleaned text is not an even number of hex
digits after `0x` or nothing, and there is only one fault that it is refused with. -/
theorem toBytes_inverts_hex (b : Bytes) (x : Option Text) :
    (∀ digits text, Text.SpellingOf b digits → Text.Decorates digits text →
        (ofText (some text)).hex = digits ∧ (ofText (some text)).toBytes = .ok b) ∧
      ((ofText (some (castInput b))).toBytes = .ok b ∧
        ∀ tools tool limit, b ≠ [] →
          ((castDisassembler tools tool limit).calls b).map Call.input = [some (castInput b)]) ∧
      ((∃ fault, (ofText x).toBytes = .error fault) ↔ ¬ (ofText x).hex.IsMarkedHex) ∧
      ∀ fault, (ofText x).toBytes = .error fault →
        ∃ cause, fault = .undecodable (ofText x).hex.length cause := by
  refine ⟨fun digits text => ofText_of_decorates, ⟨?_, ?_⟩, ?_, fun fault =>
    eq_undecodable_of_toBytes⟩
  · exact (ofText_of_decorates (Text.spellingOf_hex b) (Text.decorates_castInput b)).2
  · intro tools tool limit hne
    simp [castDisassembler, hne]
  · rw [← exists_toBytes_iff]
    cases (ofText x).toBytes with
    | ok decoded => simp
    | error fault => simp

/-- Bytes with letters among their digits. -/
def letteredBytes : Bytes := [0x0a, 0xf4]

/-- Both letter cases, blanks of several kinds, and a quote at one end only. -/
def lopsidedText : Text := ("\t \" \r0X0aF4\u3000" : String)

/-- The lopsided text decodes to the bytes, and so does what the disassembling program reads. -/
theorem toBytes_inverts_hex_lopsided :
    Text.SpellingOf letteredBytes "0aF4" ∧ Text.Decorates "0aF4" lopsidedText ∧
      (ofText (some lopsidedText)).hex = ("0aF4" : Text) ∧
      (ofText (some lopsidedText)).toBytes = .ok letteredBytes ∧
      ((castDisassembler [] "cast" .unlimited).calls letteredBytes).map Call.input =
        [some (castInput letteredBytes)] := by
  have hdigits : Text.SpellingOf letteredBytes "0aF4" :=
    .cons (.inl rfl) (.cons (.inl rfl) (.cons (.inr ⟨'f', rfl, rfl⟩) (.cons (.inl rfl) .nil)))
  have hleft : Text.Trimming ("\t " ++ .scalar '"' :: (" \r" : Text)) :=
    .quoted (by decide) (by decide)
  have hdecorates : Text.Decorates "0aF4" lopsidedText :=
    .around hleft (show ("0X" : Text) ∈ Text.hexMarks by decide)
      (.plain (show Text.IsBlank "\u3000" by decide))
  obtain ⟨hdecodes, ⟨-, hinput⟩, -⟩ := toBytes_inverts_hex letteredBytes (some lopsidedText)
  obtain ⟨hhex, hbytes⟩ := hdecodes _ _ hdigits hdecorates
  exact ⟨hdigits, hdecorates, hhex, hbytes, hinput _ _ _ (by decide)⟩

end Bytecode
end DelegateAudit

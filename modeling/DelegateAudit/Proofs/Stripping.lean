import DelegateAudit.Proofs.Hex

/-!
# DelegateAudit — cutting the metadata tail off

The tail is looked for in the lower case of a cleaned text, the cut is made in the text
itself, and what is left is cleaned once more before it is decoded, which may drop yet
another `0x`. None of this can be seen in the bytes: if the whole code decodes, so does the
code without its tail, and it decodes to the bytes before the first
`a2 64 69 70 66 73 58` (`Bytecode.toBytes_stripped`).

A text that decodes is `0x` or nothing, and then digits. Digits are neither blanks nor
quotes, so cleaning such a text again takes away its `0x` at most, and a `0x` has the
length of one byte, so it moves no offset from even to odd.
-/

namespace DelegateAudit

/-- The bytes that open a metadata tail. -/
def tailBytes : Bytes := [0xa2, 0x64, 0x69, 0x70, 0x66, 0x73, 0x58]

theorem tailMarker_eq_hex : tailMarker = tailBytes.hex := rfl

namespace Text

/-! ## Cleaning -/

theorem strip_eq_self {t : Text} (h : ∀ c ∈ t, c.isBlank = false) : t.strip = t := by
  -- no blank at the front, and none at the front of the reversed text
  have hfix : ∀ u : Text, (∀ c ∈ u, c.isBlank = false) → u.dropWhile CodePoint.isBlank = u := by
    intro u hu
    rw [List.dropWhile_eq_self_iff]
    intro hlen
    rw [hu _ (List.getElem_mem hlen)]
    exact Bool.false_ne_true
  rw [strip, stripRight, stripLeft, hfix t h, hfix t.reverse (by simpa using h),
    List.reverse_reverse]

theorem dropOpeningQuote_eq_self {t : Text} (h : .scalar '"' ∉ t) : t.dropOpeningQuote = t := by
  unfold dropOpeningQuote
  split
  · simp at h
  · rfl

theorem dropClosingQuote_eq_self {t : Text} (h : .scalar '"' ∉ t) : t.dropClosingQuote = t := by
  rw [dropClosingQuote, if_neg]
  intro hlast
  exact h (List.mem_of_getLast? hlast)

/-- Neither a blank nor a quote: nothing that cleaning looks for besides `0x`. -/
def IsBare (t : Text) : Prop := ∀ c ∈ t, c.isBlank = false ∧ c ≠ .scalar '"'

theorem IsBare.cleanHex {t : Text} (h : t.IsBare) : t.cleanHex = t.dropHexMark := by
  have hblank : ∀ c ∈ t, c.isBlank = false := fun c hc => (h c hc).1
  have hquote : .scalar '"' ∉ t := fun hc => (h _ hc).2 rfl
  rw [Text.cleanHex, strip_eq_self hblank, dropOpeningQuote_eq_self hquote,
    dropClosingQuote_eq_self hquote, strip_eq_self hblank]

theorem Spells.isBare {t : Text} {b : Bytes} (h : Spells t b) : t.IsBare := by
  intro c hc
  obtain ⟨n, hn⟩ := h.digits c hc
  exact ⟨hn.notBlank, hn.notQuote⟩

/-- A text without `0x` in front, or what follows the `0x`. -/
theorem dropHexMark_cases (t : Text) :
    t.dropHexMark = t ∨
      ∃ x, (x = .scalar 'x' ∨ x = .scalar 'X') ∧ t = .scalar '0' :: x :: t.dropHexMark := by
  unfold dropHexMark
  split
  · exact .inr ⟨_, .inl rfl, rfl⟩
  · exact .inr ⟨_, .inr rfl, rfl⟩
  · exact .inl rfl

/-- No `x` is a digit. -/
theorem Spells.dropHexMark {t : Text} {b : Bytes} (h : Spells t b) : t.dropHexMark = t := by
  rcases dropHexMark_cases t with hself | ⟨x, hx, ht⟩
  · exact hself
  · have hmem : x ∈ t := by
      rw [ht]
      simp
    obtain ⟨n, hn⟩ := h.digits x hmem
    rcases hx with rfl | rfl
    · exact absurd rfl hn.notMark.1
    · exact absurd rfl hn.notMark.2

/-! ## Cutting -/

/-- The cut in a text that spells bytes is the cut in the bytes. -/
theorem Spells.cutTail {t : Text} {b : Bytes} (h : Spells t b) :
    Spells t.cutTail (Bytes.before tailBytes b) := by
  rw [Text.cutTail, tailOffset?, h.lower_eq, tailMarker_eq_hex, alignedFind?_hex, Bytes.before]
  cases Bytes.find? tailBytes b with
  | none => exact h
  | some i => exact h.take i

/-- A `0x` in front is as long as a byte and opens no tail, so the cut is made behind it. -/
theorem cutTail_marked {x : CodePoint} (hx : x = .scalar 'x' ∨ x = .scalar 'X') (t : Text) :
    cutTail (.scalar '0' :: x :: t) = .scalar '0' :: x :: t.cutTail := by
  have hlower : lower (.scalar '0' :: x :: t) = .scalar '0' :: .scalar 'x' :: t.lower := by
    rcases hx with rfl | rfl <;> rfl
  have hstep : tailOffset? (.scalar '0' :: x :: t) = t.tailOffset?.map (· + 2) := by
    rw [tailOffset?, hlower, alignedFind?, if_neg]
    · rfl
    · -- the marker starts with `a`, not with `0`
      simp [tailMarker, ofString, List.isPrefixOf]
  rw [cutTail, hstep, cutTail]
  cases t.tailOffset? with
  | none => rfl
  | some i => rfl

end Text

/-! ## Decoding what is left -/

namespace Bytecode

theorem toBytes_eq_ok_iff {code : Bytecode} {b : Bytes} :
    code.toBytes = .ok b ↔ code.hex.dropHexMark.Spells b := by
  rw [← Text.hexBytes_eq_ok_iff, toBytes]
  cases code.hex.dropHexMark.hexBytes with
  | error fault => simp [Except.mapError]
  | ok bytes => simp [Except.mapError]

/-- What the second cleaning leaves are the digits before the tail, without any mark. -/
theorem spells_stripped {code : Bytecode} {b : Bytes} (h : code.toBytes = .ok b) :
    code.stripped.hex.Spells (Bytes.before tailBytes b) := by
  have hspells : code.hex.dropHexMark.Spells b := toBytes_eq_ok_iff.mp h
  have hcut := hspells.cutTail
  have hhex : code.stripped.hex = code.hex.dropHexMark.cutTail := by
    show code.hex.cutTail.cleanHex = _
    rcases Text.dropHexMark_cases code.hex with hself | ⟨x, hx, hmarked⟩
    · -- no mark: cutting and cleaning leave digits alone
      rw [hself] at hcut ⊢
      rw [hcut.isBare.cleanHex, hcut.dropHexMark]
    · -- one more mark: it is cut along with the rest, and the second cleaning drops it
      have hbare : Text.IsBare (.scalar '0' :: x :: code.hex.dropHexMark.cutTail) := by
        intro c hc
        rcases List.mem_cons.mp hc with rfl | hc
        · decide
        · rcases List.mem_cons.mp hc with rfl | hc
          · rcases hx with rfl | rfl <;> decide
          · exact hcut.isBare c hc
      rw [hmarked, Text.cutTail_marked hx, ← hmarked, hbare.cleanHex]
      rcases hx with rfl | rfl <;> rfl
  rw [hhex]
  exact hcut

/-- **Stripping the text is stripping the bytes.** -/
theorem toBytes_stripped {code : Bytecode} {b : Bytes} (h : code.toBytes = .ok b) :
    code.stripped.toBytes = .ok (Bytes.before tailBytes b) := by
  have hspells := spells_stripped h
  rw [toBytes_eq_ok_iff, hspells.dropHexMark]
  exact hspells

end Bytecode

/-- What `Bytes.before` gives is everything, or ends where the needle first occurs. -/
theorem Bytes.before_spec (needle b : Bytes) :
    (¬ needle <:+: b ∧ before needle b = b) ∨
      ∃ rest, b = before needle b ++ needle ++ rest ∧
        ∀ front back, b = front ++ needle ++ back → (before needle b).length ≤ front.length := by
  rw [before]
  cases hfind : find? needle b with
  | none => exact .inl ⟨find?_eq_none_iff.mp hfind, rfl⟩
  | some i =>
    obtain ⟨⟨rest, hrest⟩, hfirst⟩ := find?_eq_some_iff.mp hfind
    refine .inr ⟨rest, ?_, ?_⟩
    · rw [List.append_assoc, hrest, List.take_append_drop]
    · intro front back hb
      -- an occurrence further left would have been found
      have hocc : needle <+: b.drop front.length := by
        rw [hb, List.append_assoc, List.drop_left]
        exact List.prefix_append needle back
      have hle : i ≤ front.length := not_lt.mp fun hlt => hfirst _ hlt hocc
      exact le_trans (List.length_take_le i b) hle

/-- **A cut in the text is a cut in the bytes.** If the code of a text decodes, the code without
its tail decodes too, to the bytes before the first occurrence of the tail's opening bytes, or
to all bytes if these do not occur. -/
theorem Bytecode.stripped_decodes_before_tail (text : Option Text) (b : Bytes)
    (hb : (ofText text).toBytes = .ok b) :
    ∃ s, (ofText text).stripped.toBytes = .ok s ∧
      ((¬ tailBytes <:+: b ∧ s = b) ∨
        ∃ rest, b = s ++ tailBytes ++ rest ∧
          ∀ front back, b = front ++ tailBytes ++ back → s.length ≤ front.length) :=
  ⟨Bytes.before tailBytes b, toBytes_stripped hb, Bytes.before_spec tailBytes b⟩

/-- Blanks, quotes, `0x` in both spellings, a match that straddles bytes, and after it a real tail
in upper case. -/
def decoratedText : Text := (" \"0x0X0a26469706673580F4A2646970667358f4\"\n" : String)

/-- The code of the decorated text is cut at the real tail. -/
theorem Bytecode.stripped_decodes_before_tail_decorated :
    ∃ b, (ofText (some decoratedText)).toBytes = .ok b ∧
      ∃ s, (ofText (some decoratedText)).stripped.toBytes = .ok s ∧
        ((¬ tailBytes <:+: b ∧ s = b) ∨
          ∃ rest, b = s ++ tailBytes ++ rest ∧
            ∀ front back, b = front ++ tailBytes ++ back → s.length ≤ front.length) :=
  ⟨[0x0a, 0x26, 0x46, 0x97, 0x06, 0x67, 0x35, 0x80, 0xf4, 0xa2, 0x64, 0x69, 0x70, 0x66, 0x73, 0x58,
    0xf4], by decide, stripped_decodes_before_tail _ _ (by decide)⟩

end DelegateAudit

import DelegateAudit.Proofs.CheckReport

/-!
# DelegateAudit — a side is judged by its bytes

Whether there is code is asked of a text, the tail is looked for in the lower case of that text,
and what is disassembled are bytes. A text that decodes may be written in many ways: in either
letter case, in quotes, with blanks around it and with `0x` in front, even twice. The verdict on a
side sees none of this. It is a function of the bytes.

The one place where this could fail is nothing at all. A disassembler may well have lines for no
bytes, so a text without bytes must not get as far as that. Before the tail there are no bytes
exactly if there is no text (`Bytecode.stripped_isEmpty_iff`), since the second cleaning leaves no
`0x` behind.

Main results:

* `Listing.isHit_iff_hasWord` — what a hit is, without the search for it.
* `Disassembler.findsHit_of_toBytes` — a check is about the bytes.
* `Disassembler.checkSide_by_bytes` — all texts of the same bytes get the same two answers.
-/

namespace DelegateAudit

-- ---------------------------------------------------------------------------
-- Whole words
-- ---------------------------------------------------------------------------

namespace Listing

/-- DELEGATECALL stands in the line as a whole word, in any letter case. -/
def HasWord (line : Text) : Prop :=
  ∃ front word back, line = front ++ word ++ back ∧ word.map CodePoint.lower = token ∧
    front.getLast?.any CodePoint.isWord = false ∧ back.head?.any CodePoint.isWord = false

theorem endsInWord_cons (afterWord : Bool) (c : CodePoint) (rest : Text) :
    endsInWord afterWord (c :: rest) = (c :: rest).getLast?.any CodePoint.isWord := by
  induction rest generalizing afterWord c with
  | nil => rfl
  | cons next rest ih =>
    rw [endsInWord, ih, List.getLast?_cons_cons]

theorem endsInWord_false (t : Text) : endsInWord false t = t.getLast?.any CodePoint.isWord := by
  cases t with
  | nil => rfl
  | cons c rest => exact endsInWord_cons false c rest

theorem isHit_iff_hasWord {line : Text} : isHit line = true ↔ HasWord line := by
  unfold isHit HasWord
  simp only [hasTokenFrom_iff, endsInWord_false]

theorem hasHit_iff {lines : List Text} :
    hasHit lines = true ↔ ∃ line ∈ lines, HasWord line := by
  unfold hasHit
  simp only [List.any_eq_true, isHit_iff_hasWord]

end Listing

-- ---------------------------------------------------------------------------
-- Texts and bytes
-- ---------------------------------------------------------------------------

/-- These are the bytes before the first tail, or all of them if there is no tail. -/
def BeforeTail (b s : Bytes) : Prop :=
  (¬ tailBytes <:+: b ∧ s = b) ∨
    ∃ rest, b = s ++ tailBytes ++ rest ∧
      ∀ front back, b = front ++ tailBytes ++ back → s.length ≤ front.length

theorem BeforeTail.isPrefix {b s : Bytes} (h : BeforeTail b s) : s <+: b := by
  rcases h with ⟨-, rfl⟩ | ⟨rest, hb, -⟩
  · exact List.prefix_refl s
  · refine ⟨tailBytes ++ rest, ?_⟩
    rw [hb, List.append_assoc]

/-- A byte of the code is not before the tail exactly if there is a tail and the byte occurs
nowhere before its first place. -/
theorem BeforeTail.not_mem_iff {b s : Bytes} (h : BeforeTail b s) {byte : UInt8} (hmem : byte ∈ b) :
    byte ∉ s ↔ tailBytes <:+: b ∧ ∀ i : Nat, b[i]? = some byte → s.length ≤ i := by
  obtain ⟨behind, hbehind⟩ := h.isPrefix
  constructor
  · intro hnot
    refine ⟨?_, ?_⟩
    · -- without a tail all of the code would be before it
      rcases h with ⟨-, rfl⟩ | ⟨rest, hb, -⟩
      · exact absurd hmem hnot
      · exact ⟨s, rest, hb.symm⟩
    · intro i hi
      by_contra hlt
      have hfront : s[i]? = some byte := by
        rw [← hi, ← hbehind, List.getElem?_append_left (by omega)]
      exact hnot (List.mem_of_getElem? hfront)
  · rintro ⟨-, hbehindOnly⟩ hfront
    obtain ⟨i, hi⟩ := List.mem_iff_getElem?.mp hfront
    have hlt : i < s.length := (List.getElem?_eq_some_iff.mp hi).1
    have hb : b[i]? = some byte := by rw [← hbehind, List.getElem?_append_left hlt, hi]
    have hle : s.length ≤ i := hbehindOnly i hb
    omega

namespace Bytecode

theorem isEmpty_of_toBytes {code : Bytecode} {b : Bytes} (h : code.toBytes = .ok b)
    (hb : b ≠ []) : code.isEmpty = false := by
  by_contra hempty
  have hhex : code.hex = [] := List.isEmpty_iff.mp (Bool.not_eq_false _ ▸ hempty)
  have hspells : code.hex.dropHexMark.Spells b := toBytes_eq_ok_iff.mp h
  rw [hhex] at hspells
  have hlength := hspells.length_eq
  exact hb (List.length_eq_zero_iff.mp (by simpa [Text.dropHexMark] using hlength))

/-- Before the tail there is no text exactly if there are no bytes. -/
theorem stripped_isEmpty_iff {code : Bytecode} {b : Bytes} (h : code.toBytes = .ok b) :
    code.stripped.isEmpty = true ↔ Bytes.before tailBytes b = [] := by
  have hlength := (spells_stripped h).length_eq
  rw [isEmpty, List.isEmpty_iff, ← List.length_eq_zero_iff, ← List.length_eq_zero_iff]
  omega

end Bytecode

-- ---------------------------------------------------------------------------
-- Checks
-- ---------------------------------------------------------------------------

namespace Disassembler

variable {d : Disassembler}

/-- There are bytes, and they are disassembled to lines with a DELEGATECALL. -/
def Shows (d : Disassembler) (bytes : Bytes) : Prop :=
  bytes ≠ [] ∧ ∃ lines, d.lines bytes = .ok lines ∧ ∃ line ∈ lines, Listing.HasWord line

theorem shows_byteDisassembler_iff {bytes : Bytes} :
    byteDisassembler.Shows bytes ↔ 0xF4 ∈ bytes := by
  have hlines : (∃ lines, byteDisassembler.lines bytes = .ok lines ∧
      ∃ line ∈ lines, Listing.HasWord line) ↔ 0xF4 ∈ bytes := by
    rw [← hasHit_byteLines_iff 0 bytes, Listing.hasHit_iff]
    simp [byteDisassembler]
  rw [Shows, hlines, and_iff_right_iff_imp]
  intro hmem
  exact List.ne_nil_of_mem hmem

/-- What a check of a code finds is what its bytes show. -/
theorem findsHit_of_toBytes (honly : d.OnlyRefuses) {code : Bytecode} {bytes : Bytes}
    (hbytes : code.toBytes = .ok bytes) (hempty : code.isEmpty = true ↔ bytes = []) :
    ∃ hit, d.findsHit code = .ok hit ∧ (hit = true ↔ d.Shows bytes) := by
  obtain ⟨hit, hhit⟩ := exists_findsHit honly code
  refine ⟨hit, hhit, ?_⟩
  have htrue : hit = true ↔ d.findsHit code = .ok true := by
    rw [hhit, Except.ok.injEq]
  have hsome : code.isEmpty = false ↔ bytes ≠ [] := by
    rw [ne_eq, ← hempty, Bool.not_eq_true]
  rw [htrue, findsHit_eq_true_iff]
  simp only [Lists, hsome, hbytes, Shows, Listing.hasHit_iff]
  constructor
  · rintro ⟨lines, ⟨hne, decoded, hdecoded, hlines⟩, hword⟩
    obtain rfl : bytes = decoded := Except.ok.inj hdecoded
    exact ⟨hne, lines, hlines, hword⟩
  · rintro ⟨hne, lines, hlines, hword⟩
    exact ⟨lines, ⟨hne, bytes, rfl, hlines⟩, hword⟩

/-- Whoever knows what the bytes show knows the answers. -/
theorem checkSide_of_toBytes (honly : d.OnlyRefuses) {text : Option Text} {b : Bytes} (hb : b ≠ [])
    (hbytes : (Bytecode.ofText text).toBytes = .ok b) {stripped full : Bool}
    (hstripped : stripped = true ↔ d.Shows (Bytes.before tailBytes b))
    (hfull : full = true ↔ d.Shows b) (label : Text) :
    (d.checkSide text label).outcome = .ok (stripped, full) := by
  have hfront := Bytecode.toBytes_stripped hbytes
  have hsome : (Bytecode.ofText text).isEmpty = true ↔ b = [] := by
    rw [Bytecode.isEmpty_of_toBytes hbytes hb]
    exact iff_of_false Bool.false_ne_true hb
  obtain ⟨first, hfirst, hfirstShows⟩ :=
    findsHit_of_toBytes honly hfront (Bytecode.stripped_isEmpty_iff hbytes)
  obtain ⟨second, hsecond, hsecondShows⟩ := findsHit_of_toBytes honly hbytes hsome
  have hfirstEq : first = stripped := Bool.eq_iff_iff.mpr (hfirstShows.trans hstripped.symm)
  have hsecondEq : second = full := Bool.eq_iff_iff.mpr (hsecondShows.trans hfull.symm)
  rw [outcome_checkSide, hfirst, hsecond, hfirstEq, hsecondEq]
  rfl

/-- **All texts of the same bytes get the same two answers.** The first tells what the bytes before
the tail show and the second what all of them show. With the byte-wise disassembler this comes
down to the byte `f4`: it counts as in the tail only exactly if it is there, but nowhere before the
first tail; and what is found without the tail is found with it. -/
theorem checkSide_by_bytes (d : Disassembler) (honly : d.OnlyRefuses) (b : Bytes) (hb : b ≠ []) :
    (∀ c, byteDisassembler.Shows c ↔ 0xF4 ∈ c) ∧
      ∃ s stripped full, BeforeTail b s ∧ (stripped = true ↔ d.Shows s) ∧
        (full = true ↔ d.Shows b) ∧
        (∀ text label, (Bytecode.ofText text).toBytes = .ok b →
          (d.checkSide text label).outcome = .ok (stripped, full)) ∧
        (d = byteDisassembler →
          ((full && !stripped) = true ↔
            0xF4 ∈ b ∧ tailBytes <:+: b ∧ ∀ i : Nat, b[i]? = some 0xF4 → s.length ≤ i) ∧
          (stripped = true → full = true)) := by
  classical
  have hbefore : BeforeTail b (Bytes.before tailBytes b) := Bytes.before_spec tailBytes b
  refine ⟨fun c => shows_byteDisassembler_iff, Bytes.before tailBytes b,
    decide (d.Shows (Bytes.before tailBytes b)), decide (d.Shows b), hbefore,
    decide_eq_true_iff, decide_eq_true_iff, ?_, ?_⟩
  · intro text label hbytes
    exact checkSide_of_toBytes honly hb hbytes decide_eq_true_iff decide_eq_true_iff label
  · rintro rfl
    simp only [shows_byteDisassembler_iff, decide_eq_true_iff, Bool.and_eq_true, Bool.not_eq_true',
      decide_eq_false_iff_not]
    constructor
    · exact and_congr_right fun hmem => hbefore.not_mem_iff hmem
    · intro hmem
      exact hbefore.isPrefix.subset hmem

theorem byteDisassembler_onlyRefuses : byteDisassembler.OnlyRefuses := by
  intro bytes fault h
  cases h

def plainSpelling : Text := "60f4a2646970667358"

def quotedSpelling : Text := " \"0X0x60F4A2646970667358\"\n"

/-- A code with `f4` in its tail only. -/
def hiddenBytes : Bytes := 0x60 :: tailBytes ++ [0xF4]

/-- Two spellings get the same answers from a disassembler that gives up on the bytes before the
tail, and the byte-wise one finds `f4` in the tail only. -/
theorem checkSide_by_bytes_spellings :
    Check.tailReader.OnlyRefuses ∧
      (Check.tailReader.checkSide (some plainSpelling) "runtime").outcome = .ok (false, true) ∧
      (Check.tailReader.checkSide (some quotedSpelling) "creation").outcome = .ok (false, true) ∧
      byteDisassembler.OnlyRefuses ∧
      (byteDisassembler.checkSide (some hiddenBytes.hex) "runtime").outcome = .ok (false, true) ∧
      ∃ s, BeforeTail hiddenBytes s ∧ ∀ i : Nat, hiddenBytes[i]? = some 0xF4 → s.length ≤ i := by
  refine ⟨Check.tailReader_onlyRefuses, by decide, ?_, byteDisassembler_onlyRefuses, by decide, ?_⟩
  · obtain ⟨-, s, stripped, full, -, -, -, hside, -⟩ := checkSide_by_bytes Check.tailReader
      Check.tailReader_onlyRefuses (0x60 :: 0xF4 :: tailBytes) (by decide)
    have hplain := hside (some plainSpelling) "runtime" (by decide)
    have hquoted := hside (some quotedSpelling) "creation" (by decide)
    have hanswers : (Check.tailReader.checkSide (some plainSpelling) "runtime").outcome =
        .ok (false, true) := by decide
    rw [hquoted, ← hplain, hanswers]
  · obtain ⟨-, s, stripped, full, hbefore, -, -, hside, hbytewise⟩ :=
      checkSide_by_bytes byteDisassembler byteDisassembler_onlyRefuses hiddenBytes (by decide)
    have hanswers := hside (some hiddenBytes.hex) "runtime" (by decide)
    have hpair : (byteDisassembler.checkSide (some hiddenBytes.hex) "runtime").outcome =
        .ok (false, true) := by decide
    obtain ⟨rfl, rfl⟩ := Prod.mk.inj (Except.ok.inj (hpair.symm.trans hanswers))
    exact ⟨s, hbefore, ((hbytewise rfl).1.mp rfl).2.2⟩

end Disassembler
end DelegateAudit

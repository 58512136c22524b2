import DelegateAudit.Text.Blank

/-!
# DelegateAudit — decimal digits

Every script's decimal digits come as ten consecutive code points, zero first, so
the table holds only the zeros. `Text.toInt?` reads an integer as a person may
type it: blanks around it, a sign, single underscores between digits, digits of
any script.
-/

namespace DelegateAudit.CodePoint

/-- The zero of every run of ten decimal digits past the first 128 code points. -/
def digitZeros : List Nat :=
  [0x660, 0x6f0, 0x7c0, 0x966, 0x9e6, 0xa66, 0xae6, 0xb66, 0xbe6, 0xc66, 0xce6, 0xd66, 0xde6,
   0xe50, 0xed0, 0xf20, 0x1040, 0x1090, 0x17e0, 0x1810, 0x1946, 0x19d0, 0x1a80, 0x1a90, 0x1b50,
   0x1bb0, 0x1c40, 0x1c50, 0xa620, 0xa8d0, 0xa900, 0xa9d0, 0xa9f0, 0xaa50, 0xabf0, 0xff10,
   0x104a0, 0x10d30, 0x11066, 0x110f0, 0x11136, 0x111d0, 0x112f0, 0x11450, 0x114d0, 0x11650,
   0x116c0, 0x11730, 0x118e0, 0x11950, 0x11c50, 0x11d50, 0x11da0, 0x16a60, 0x16ac0, 0x16b50,
   0x1d7ce, 0x1d7d8, 0x1d7e2, 0x1d7ec, 0x1d7f6, 0x1e140, 0x1e2f0, 0x1e950, 0x1fbf0]

/-- The value of a decimal digit of any script. -/
def digit? (c : CodePoint) : Option Nat :=
  if c.value < 128 then
    if c.between 0x30 0x39 then some (c.value - 0x30) else none
  else
    (digitZeros.find? fun first => c.between first (first + 9)).map (c.value - ·)

/-- Is this a decimal digit of some script? -/
def isDigit (c : CodePoint) : Bool := c.digit?.isSome

end DelegateAudit.CodePoint

namespace DelegateAudit.Text

/-- The number that digits spell, when single underscores may stand between two of them. -/
def digitsValue? : (afterDigit : Bool) → (acc : Nat) → Text → Option Nat
  | afterDigit, acc, [] => if afterDigit then some acc else none
  | afterDigit, acc, c :: rest =>
    if c = '_' then
      if afterDigit then digitsValue? false acc rest else none
    else
      match c.digit? with
      | some d => digitsValue? true (10 * acc + d) rest
      | none => none

/-- The most digits that an integer may have. -/
def digitLimit : Nat := 4300

/-- The number that the digits of an integer spell, if there are not too many of them. -/
def wholeValue? (digits : Text) : Option Nat :=
  if digitLimit < digits.countP CodePoint.isDigit then none else digitsValue? false 0 digits

/-- An integer as typed by a person. -/
def toInt? (t : Text) : Option Int :=
  match t.unpad with
  | .scalar '-' :: digits => (wholeValue? digits).map fun n => -(n : Int)
  | .scalar '+' :: digits => (wholeValue? digits).map Int.ofNat
  | digits => (wholeValue? digits).map Int.ofNat

end DelegateAudit.Text

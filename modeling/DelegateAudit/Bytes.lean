import DelegateAudit.Text.Quoted

/-!
# DelegateAudit — bytes and hex text

A byte string is a list of bytes; its hex text has two lower-case digits for each.
`Text.hexBytes` reads hex text in any letter case and says what is wrong with a
text that is none. Three things can be wrong, and they are looked for in this
order: a character that is not ASCII, an odd number of digits, a character that is
no digit.
-/

namespace DelegateAudit

/-- A string of bytes. -/
abbrev Bytes := List UInt8

/-- A run of code points that a coding cannot express: where it starts, how it goes on. -/
structure BadRun where
  start : Nat
  first : CodePoint
  /-- The number of further bad code points right after the first one. -/
  more : Nat
deriving DecidableEq, Repr

namespace BadRun

/-- The first run of code points with a property, counting positions from `start`. -/
def find? (bad : CodePoint → Bool) : (start : Nat) → Text → Option BadRun
  | _, [] => none
  | start, c :: rest =>
    if bad c then some ⟨start, c, (rest.takeWhile bad).length⟩ else find? bad (start + 1) rest

/-- What is said of the run: the code point itself, or the positions when there are several. -/
def describe (run : BadRun) : Text :=
  if run.more = 0 then
    "character '" ++ run.first.escape ++ "' in position " ++ Text.ofNat run.start
  else
    "characters in position " ++ Text.ofNat run.start ++ "-" ++ Text.ofNat (run.start + run.more)

end BadRun

/-- What can be wrong with hex text. -/
inductive HexFault where
  | notAscii (run : BadRun)
  | oddLength
  | notDigit
deriving DecidableEq, Repr

/-- The wording of a fault in hex text. -/
def HexFault.message : HexFault → Text
  | .notAscii run => "'ascii' codec can't encode " ++ run.describe ++ ": ordinal not in range(128)"
  | .oddLength => "Odd-length string"
  | .notDigit => "Non-hexadecimal digit found"

/-- The lower-case hex digit of a number below sixteen. -/
def hexDigit (n : Nat) : CodePoint := .scalar (Nat.digitChar n)

/-- The value of a hex digit in either letter case. -/
def hexValue? : CodePoint → Option Nat
  | .surrogate _ => none
  | .scalar c =>
    if '0' ≤ c ∧ c ≤ '9' then some (c.toNat - '0'.toNat)
    else if 'a' ≤ c ∧ c ≤ 'f' then some (c.toNat - 'a'.toNat + 10)
    else if 'A' ≤ c ∧ c ≤ 'F' then some (c.toNat - 'A'.toNat + 10)
    else none

namespace Bytes

/-- The hex text of a byte string, high half of each byte first. -/
def hex (bytes : Bytes) : Text :=
  bytes.flatMap fun b => [hexDigit (b.toNat / 16), hexDigit (b.toNat % 16)]

end Bytes

namespace Text

/-- The bytes that pairs of hex digits spell. -/
def hexPairs : Text → Except HexFault Bytes
  | [] => .ok []
  | [_] => .error .oddLength
  | high :: low :: rest =>
    match hexValue? high, hexValue? low with
    | some h, some l => (hexPairs rest).map (UInt8.ofNat (16 * h + l) :: ·)
    | _, _ => .error .notDigit

/-- The bytes of a hex text. -/
def hexBytes (t : Text) : Except HexFault Bytes :=
  match BadRun.find? (fun c => !c.isAscii) 0 t with
  | some run => .error (.notAscii run)
  | none => if t.length % 2 = 1 then .error .oddLength else hexPairs t

end Text
end DelegateAudit

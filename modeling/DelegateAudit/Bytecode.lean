import DelegateAudit.Run
import DelegateAudit.Text.Blank
import DelegateAudit.Text.Case

/-!
# DelegateAudit — bytecode text

Compilers write bytecode as hex text, sometimes in quotes, with blanks around it or `0x`
in front, and put a tail of metadata behind the code. The tail is never executed, but a
byte in it may look like an instruction. It starts with the bytes `a2 64 69 70 66 73 58`,
so it is cut off at the first place where their hex digits stand on a byte boundary, that
is, at an even offset. The search goes through the lower case of the text, and the cut is
made in the text itself at the same offset.
-/

namespace DelegateAudit

/-- The hex digits that open a metadata tail. -/
def tailMarker : Text := "a2646970667358"

namespace Text

/-- Drop `0x` or `0X` at the front, once. -/
def dropHexMark : Text → Text
  | .scalar '0' :: .scalar 'x' :: rest => rest
  | .scalar '0' :: .scalar 'X' :: rest => rest
  | t => t

/-- Drop a double quote at the front. -/
def dropOpeningQuote : Text → Text
  | .scalar '"' :: rest => rest
  | t => t

/-- Drop a double quote at the end. -/
def dropClosingQuote (t : Text) : Text := if t.getLast? = some (.scalar '"') then t.dropLast else t

/-- Bytecode text without blanks around it, quotes and `0x`. -/
def cleanHex (t : Text) : Text := t.strip.dropOpeningQuote.dropClosingQuote.strip.dropHexMark

/-- The least even offset at which `needle` stands in the text. -/
def alignedFind? (needle : Text) : Text → Option Nat
  | [] => if needle.isEmpty then some 0 else none
  | [c] => if needle.isPrefixOf [c] then some 0 else none
  | a :: b :: rest =>
    if needle.isPrefixOf (a :: b :: rest) then some 0
    else (alignedFind? needle rest).map (· + 2)

/-- Where the metadata tail starts. -/
def tailOffset? (t : Text) : Option Nat := alignedFind? tailMarker t.lower

/-- The text before its metadata tail, all of it if there is none. -/
def cutTail (t : Text) : Text :=
  match t.tailOffset? with
  | none => t
  | some offset => t.take offset

/-- Cleaned bytecode text without its metadata tail. -/
def stripTail (t : Text) : Text := t.cleanHex.cutTail

end Text

/-- Bytecode, as cleaned hex text. -/
structure Bytecode where
  hex : Text
deriving DecidableEq, Repr

namespace Bytecode

/-- The bytecode of a text; missing text is empty bytecode. -/
def ofText : Option Text → Bytecode
  | none => ⟨[]⟩
  | some t => ⟨t.cleanHex⟩

/-- Is there nothing? -/
def isEmpty (code : Bytecode) : Bool := code.hex.isEmpty

/-- The number of whole bytes. -/
def size (code : Bytecode) : Nat := code.hex.length / 2

/-- The bytecode before its metadata tail, cleaned once more. -/
def stripped (code : Bytecode) : Bytecode := ofText (some code.hex.cutTail)

/-- The bytes; one more `0x` at the front does not count. -/
def toBytes (code : Bytecode) : Except Fault Bytes :=
  code.hex.dropHexMark.hexBytes.mapError (.undecodable code.hex.length)

/-- A short description: the first sixteen digits and the size. -/
def describe (code : Bytecode) : Text :=
  "Bytecode(0x" ++ code.hex.take 16 ++ (if 16 < code.hex.length then "..." else "") ++ ", " ++
    Text.ofNat code.size ++ " bytes)"

end Bytecode
end DelegateAudit

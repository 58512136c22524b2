import DelegateAudit.Json.Value

/-!
# DelegateAudit — writing JSON

Reports are written one item or member to a line, two blanks deeper at each level.
Inside strings only the quote, the backslash and the controls are escaped; all other
characters stand for themselves. A whole number may have too many digits to be written
(`render?`).
-/

namespace DelegateAudit.Json

/-- A code point inside a JSON string. -/
def escapeIn (c : CodePoint) : Text :=
  if c = '"' then "\\\""
  else if c = '\\' then "\\\\"
  else if c = '\n' then "\\n"
  else if c = '\r' then "\\r"
  else if c = '\t' then "\\t"
  else if c = '\x0c' then "\\f"
  else if c = '\x08' then "\\b"
  else if c.value < 0x20 then "\\u" ++ Text.ofHex 4 c.value
  else [c]

/-- A JSON string. -/
def writeString (t : Text) : Text := "\"" ++ t.flatMap escapeIn ++ "\""

/-- The start of a line at some level. -/
def newline (level : Nat) : Text := "\n" ++ Text.blanks (2 * level)

/-- The text of a number; there are names for those that no digits spell. -/
def writeFloat : Binary64 → Text
  | .nan => "NaN"
  | .infinite negative => if negative then "-Infinity" else "Infinity"
  | x => x.toText

mutual

/-- A value whose first line starts at some level. -/
def write (level : Nat) : Value → Text
  | .null => "null"
  | .bool b => if b then "true" else "false"
  | .int n => Text.ofInt n
  | .float x => writeFloat x
  | .str t => writeString t
  | .arr [] => "[]"
  | .arr (v :: vs) =>
    "[" ++ Text.join "," (writeItems (level + 1) (v :: vs)) ++ newline level ++ "]"
  | .obj [] => "\x7b\x7d"
  | .obj (m :: ms) =>
    "\x7b" ++ Text.join "," (writeMembers (level + 1) (m :: ms)) ++ newline level ++ "\x7d"

/-- Items, each on a line of its own. -/
def writeItems (level : Nat) : List Value → List Text
  | [] => []
  | v :: vs => (newline level ++ write level v) :: writeItems level vs

/-- Members, each on a line of its own. -/
def writeMembers (level : Nat) : List (Text × Value) → List Text
  | [] => []
  | (k, v) :: ms =>
    (newline level ++ writeString k ++ ": " ++ write level v) :: writeMembers level ms

end

/-- The text of a value. -/
def render (v : Value) : Text := write 0 v

mutual

/-- How many digits the longest whole number in a value has. -/
def Value.digits : Value → Nat
  | .int n => (Text.ofNat n.natAbs).length
  | .arr items => itemsDigits items
  | .obj members => membersDigits members
  | _ => 0

/-- How many digits the longest whole number in some items has. -/
def itemsDigits : List Value → Nat
  | [] => 0
  | v :: vs => max v.digits (itemsDigits vs)

/-- How many digits the longest whole number in some members has. -/
def membersDigits : List (Text × Value) → Nat
  | [] => 0
  | (_, v) :: ms => max v.digits (membersDigits ms)

end

/-- The text of a value, if whole numbers may have so many digits. -/
def render? (limit : Option Nat) (v : Value) : Option Text :=
  if limit.any (· < v.digits) then none else some (render v)

end DelegateAudit.Json

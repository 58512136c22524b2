import DelegateAudit.Number.Shortest
import DelegateAudit.Text.Quoted

/-!
# DelegateAudit — JSON values

Artifacts, rule files and ABI entries are JSON of any shape, so a value is kept as
it was read: objects keep the order of their members, whole numbers stay whole
numbers of any size. An object never has two members with one key (`Value.ofMembers`).

A value shows up in messages in two ways: `Value.display` writes a string as it is,
`Value.quoted` puts it in quotes; inside lists and objects strings are always quoted.
A value can be too large to be quoted (`Value.quoteFault?`).
-/

namespace DelegateAudit.Json

/-- A JSON value. -/
inductive Value where
  | null
  | bool (b : Bool)
  | int (n : Int)
  | float (x : Binary64)
  | str (t : Text)
  | arr (items : List Value)
  | obj (members : List (Text × Value))
deriving Inhabited, Repr

/-- The members of an object, in order. -/
abbrev Members := List (Text × Value)

namespace Members

/-- The value of a key. -/
def get? (members : Members) (key : Text) : Option Value := members.lookup key

/-- Set the value of a key: in place if the key is there, at the end if not. -/
def put (members : Members) (key : Text) (value : Value) : Members :=
  match members with
  | [] => [(key, value)]
  | (k, v) :: rest => if k = key then (k, value) :: rest else (k, v) :: put rest key value

/-- Members as they are read: a repeated key keeps its first place and takes its last value. -/
def ofList (pairs : List (Text × Value)) : Members :=
  pairs.foldl (fun members pair => put members pair.1 pair.2) []

end Members

namespace Value

/-- The name of a value's kind, as messages call it. -/
def kindName : Value → Text
  | .null => "NoneType"
  | .bool _ => "bool"
  | .int _ => "int"
  | .float _ => "float"
  | .str _ => "str"
  | .arr _ => "list"
  | .obj _ => "dict"

/-- Does the value count as something? Null, false, zero and what is empty do not. -/
def isTruthy : Value → Bool
  | .null => false
  | .bool b => b
  | .int n => n ≠ 0
  | .float x => !x.isZero
  | .str t => !t.isEmpty
  | .arr items => !items.isEmpty
  | .obj members => !members.isEmpty

/-- The string a value is. -/
def text? : Value → Option Text
  | .str t => some t
  | _ => none

/-- The members of an object. -/
def members? : Value → Option Members
  | .obj members => some members
  | _ => none

/-- The items one gets by going through a value: those of a list, the keys of an object, the
characters of a string. Nothing else can be gone through. -/
def elements? : Value → Option (List Value)
  | .arr items => some items
  | .obj members => some (members.map fun m => .str m.1)
  | .str t => some (t.map fun c => .str [c])
  | _ => none

mutual

/-- A value in a message, strings quoted. -/
def quoted : Value → Text
  | .null => "None"
  | .bool b => if b then "True" else "False"
  | .int n => Text.ofInt n
  | .float x => x.toText
  | .str t => t.quoted
  | .arr items => "[" ++ Text.join ", " (quotedItems items) ++ "]"
  | .obj members => "\x7b" ++ Text.join ", " (quotedMembers members) ++ "\x7d"

/-- The texts of items. -/
def quotedItems : List Value → List Text
  | [] => []
  | v :: rest => quoted v :: quotedItems rest

/-- The texts of members, a colon between key and value. -/
def quotedMembers : List (Text × Value) → List Text
  | [] => []
  | (k, v) :: rest => (k.quoted ++ ": " ++ quoted v) :: quotedMembers rest

end

/-- Why a value cannot be quoted. -/
inductive QuoteFault where
  | tooDeep
  | tooManyDigits
deriving DecidableEq, Repr

/-- What keeps a value from being quoted, if whole numbers may have so many digits and so many
values may stand one inside the other: the first obstacle from left to right. A key is no obstacle
where its value is none. -/
def quoteFault? (digits : Option Nat) : Nat → Value → Option QuoteFault
  | 0, _ => some .tooDeep
  | levels + 1, v =>
    match v with
    | .int n => if digits.any (· < (Text.ofNat n.natAbs).length) then some .tooManyDigits else none
    | .arr items => items.findSome? (quoteFault? digits levels)
    | .obj members => members.findSome? fun member => quoteFault? digits levels member.2
    | _ => none

/-- A value in a message, a string as it is. -/
def display : Value → Text
  | .str t => t
  | v => v.quoted

end Value
end DelegateAudit.Json

import DelegateAudit.Keccak
import DelegateAudit.Rules

/-!
# DelegateAudit — the surface of a contract

The ABI of a contract lists what can be called from outside. Two things matter: whether
there is a fallback or receive entry, and which functions look as if they forward calls
to a target of the caller's choosing.

Entries come straight from JSON and may have any shape. What is missing or of the wrong
kind counts as an empty text; only a parameter that is neither an object nor a string
cannot be written in a signature at all and is a fault.

Tuples are followed, and malformed entries are quoted, only as far as the machine goes
(`Limits`); what goes further is a fault too.
-/

namespace DelegateAudit

open Json

namespace Abi

/-- The text of a member, empty if it is missing or no string. -/
def textOf (entry : Members) (key : Text) : Text := ((entry.get? key).bind Value.text?).getD []

/-- The parameters of an entry. -/
def parameters (entry : Members) : List Value :=
  match entry.get? "inputs" with
  | some (.arr inputs) => inputs
  | _ => []

/-- The type of a parameter as it is declared. -/
def declaredType : Value → Text
  | .obj members => textOf members "type"
  | _ => []

/-- The declared types of the parameters. -/
def inputTypes (entry : Members) : List Text := (parameters entry).map declaredType

/-- Why a parameter has no written type. -/
inductive TypeFault where
  /-- It has no type, or its components are missing or cannot be gone through. -/
  | incomplete
  /-- It, or a component of it, is neither an object nor a string. -/
  | shapeless (kind : Text)
  /-- Its components nest too deep; the text says what was being done. -/
  | tooDeep (doing : Text)
deriving DecidableEq, Repr

/-- What the lack of a written type ends all work with, if it does; where something is merely
missing, there is another way. -/
def TypeFault.ending? : TypeFault → Option Fault
  | .incomplete => none
  | .shapeless kind => some (.noMembers kind)
  | .tooDeep doing => some (.tooDeep doing)

/-- The written type of a string at some level, which is that string. -/
def writtenText (limit : DepthLimit) (level : Nat) (t : Text) : Except TypeFault Text :=
  match limit level (.str t) with
  | some doing => .error (.tooDeep doing)
  | none => .ok t

mutual

/-- The type of a parameter at some level as a signature writes it: a tuple by the types of its
components in parentheses. -/
def writtenType (limit : DepthLimit) (level : Nat) : Value → Except TypeFault Text
  | .str t => writtenText limit level t
  | .obj members =>
    match limit level (.obj members) with
    | some doing => .error (.tooDeep doing)
    | none =>
      match (Members.get? members "type").bind Value.text? with
      | none => .error .incomplete
      | some type =>
        if ("tuple" : Text).isPrefixOf type then
          match writtenComponents limit level members with
          | none => .error .incomplete
          | some (.error fault) => .error fault
          | some (.ok types) => .ok ("(" ++ Text.join "," types ++ ")" ++ type.drop 5)
        else .ok type
  | v =>
    match limit level v with
    | some doing => .error (.tooDeep doing)
    | none => .error (.shapeless v.kindName)

/-- The written types of the components among some members, if there are components to go through.
The components of a parameter may also be an object or a string, which stand for their keys or
characters. -/
def writtenComponents (limit : DepthLimit) (level : Nat) :
    List (Text × Value) → Option (Except TypeFault (List Text))
  | [] => none
  | (key, v) :: rest =>
    if key = "components" then componentTypes limit (level + 1) v
    else writtenComponents limit level rest

/-- The written types of all items of components, which stand at some level. -/
def componentTypes (limit : DepthLimit) (level : Nat) :
    Value → Option (Except TypeFault (List Text))
  | .arr items => some (writtenTypes limit level items)
  | .obj members => some ((members.map Prod.fst).mapM (writtenText limit level))
  | .str t => some ((t.map fun c => [c]).mapM (writtenText limit level))
  | _ => none

/-- The written types of parameters, the first fault ending the list. -/
def writtenTypes (limit : DepthLimit) (level : Nat) : List Value → Except TypeFault (List Text)
  | [] => .ok []
  | v :: rest =>
    match writtenType limit level v with
    | .error fault => .error fault
    | .ok type =>
      match writtenTypes limit level rest with
      | .error fault => .error fault
      | .ok types => .ok (type :: types)

end

/-- A parameter in a signature. If its type cannot be written, its declared type has to do. -/
def signaturePart (limit : DepthLimit) (parameter : Value) : Except Fault Text :=
  match writtenType limit 0 parameter with
  | .ok type => .ok type
  | .error cause =>
    match cause.ending? with
    | some fault => .error fault
    | none => .ok (declaredType parameter)

/-- The signature of an entry: its name, and its parameters in parentheses. -/
def signature (limit : DepthLimit) (entry : Members) : Except Fault Text := do
  let types ← (parameters entry).mapM (signaturePart limit)
  return textOf entry "name" ++ "(" ++ Text.join "," types ++ ")"

/-- The selector of a signature: the first four bytes of its hash, blanks left out. -/
def selector (signature : Text) : Except Fault Text :=
  match Text.encodeUtf8 (signature.filter fun c => c ≠ .scalar ' ') with
  | .error run => .error (.unencodable run)
  | .ok bytes => .ok ("0x" ++ Bytes.hex ((Keccak.hash bytes).take 4))

/-- Does a function with this entry look like a forwarder? -/
def isForwarder (rules : ForwarderRules) (entry : Members) : Bool :=
  rules.nameMatches (textOf entry "name") ||
    rules.signatureMatches (Text.join "," (inputTypes entry))

/-- What the entries of an ABI show. -/
structure Surface where
  hasForwarder : Bool := false
  hasFallback : Bool := false
  /-- The forwarder functions, each with its selector. -/
  forwarders : List Text := []
deriving DecidableEq, Repr

/-- The surface as a JSON object. -/
def Surface.toMembers (surface : Surface) : Members :=
  [("has_forwarder_like_function", .bool surface.hasForwarder),
   ("has_fallback_or_receive", .bool surface.hasFallback),
   ("forwarder_functions", .arr (surface.forwarders.map .str))]

/-- What kind of entry this is. -/
inductive EntryKind where
  /-- No object at all. -/
  | malformed
  /-- A fallback or receive entry. -/
  | fallback
  /-- A function that can change state and looks like a forwarder. -/
  | forwarder (entry : Members)
  | other
deriving Inhabited

/-- Sort an entry. -/
def kindOf (rules : ForwarderRules) : Value → EntryKind
  | .obj entry =>
    let type := textOf entry "type"
    let mutability := textOf entry "stateMutability"
    if type = "fallback" || type = "receive" then .fallback
    else if type ≠ "function" then .other
    else if mutability = "pure" || mutability = "view" then .other
    else if isForwarder rules entry then .forwarder entry
    else .other
  | _ => .malformed

/-- A value that is no entry, as the message about it quotes it. -/
def quotedEntry (limits : Limits) (v : Value) : Except Fault Text :=
  match v.quoteFault? limits.digits limits.quoting with
  | some cause => .error (.ofQuoting cause)
  | none => .ok v.quoted

/-- Go through entries, adding to a surface. -/
def addEntries (limits : Limits) (rules : ForwarderRules) (surface : Surface) :
    List Value → Run Surface
  | [] => pure surface
  | entry :: rest =>
    match kindOf rules entry with
    | .malformed => do
      let quoted ← Run.ofExcept (quotedEntry limits entry)
      Run.log .debug ("skipping malformed ABI entry: " ++ quoted)
      addEntries limits rules surface rest
    | .fallback => addEntries limits rules { surface with hasFallback := true } rest
    | .other => addEntries limits rules surface rest
    | .forwarder members => do
      let signature ← Run.ofExcept (signature limits.expansion members)
      let selector ← Run.ofExcept (selector signature)
      Run.log .debug ("forwarder-like ABI function: " ++ signature)
      let forwarders := surface.forwarders ++ [signature ++ " " ++ selector]
      addEntries limits rules { surface with hasForwarder := true, forwarders } rest

/-- The surface that entries show. -/
def analyze (limits : Limits) (rules : ForwarderRules) (entries : List Value) : Run Surface :=
  addEntries limits rules {} entries

/-- The surface that any JSON value shows when it is taken for the entries of an ABI. -/
def analyzeValue (limits : Limits) (rules : ForwarderRules) (entries : Value) : Run Surface :=
  if !entries.isTruthy then pure {}
  else
    match entries.elements? with
    | some entries => analyze limits rules entries
    | none => Run.fail (.notIterable entries.kindName)

end Abi
end DelegateAudit

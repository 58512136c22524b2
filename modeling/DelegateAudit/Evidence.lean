import DelegateAudit.Bytecode
import DelegateAudit.Disassembler
import DelegateAudit.Json.Value
import DelegateAudit.Listing

/-!
# DelegateAudit — bytecode evidence

A contract has code that runs and code that creates it. Each is disassembled twice, with
and without its metadata tail. A DELEGATECALL that shows up only with the tail lies in
bytes that never run.

Code that cannot be decoded or disassembled gives no lines; that is logged and is no
fault. Any other fault of the disassembler ends the work.
-/

namespace DelegateAudit

/-- Where a DELEGATECALL was found. -/
structure Evidence where
  runtimeStripped : Bool := false
  creationStripped : Bool := false
  runtimeFull : Bool := false
  creationFull : Bool := false
deriving DecidableEq, Repr

namespace Evidence

/-- On one side or the other, only the tail has a DELEGATECALL. -/
def metadataOnly (e : Evidence) : Bool :=
  (e.runtimeFull && !e.runtimeStripped) || (e.creationFull && !e.creationStripped)

/-- There is a DELEGATECALL outside the tail. -/
def hasStrippedHit (e : Evidence) : Bool := e.runtimeStripped || e.creationStripped

/-- The evidence as a JSON object. -/
def toMembers (e : Evidence) : Json.Members :=
  [("runtime_has_delegate_stripped", .bool e.runtimeStripped),
   ("creation_has_delegate_stripped", .bool e.creationStripped),
   ("runtime_has_delegate_full", .bool e.runtimeFull),
   ("creation_has_delegate_full", .bool e.creationFull),
   ("metadata_only", .bool e.metadataOnly)]

end Evidence

/-- Can the work go on without the lines of this code? -/
def Fault.isNoLines : Fault → Bool
  | .undecodable _ _ => true
  | .disassembly _ => true
  | _ => false

namespace Disassembler

/-- The lines of bytecode, none if there is nothing. -/
def listing (d : Disassembler) (code : Bytecode) : Run (List Text) :=
  if code.isEmpty then pure []
  else do
    let bytes ← Run.ofExcept code.toBytes
    d.run bytes

/-- The lines of bytecode, none if it cannot be decoded or disassembled. -/
def listingOrNone (d : Disassembler) (code : Bytecode) (label : Text) : Run (List Text) :=
  (d.listing code).recover fun fault =>
    if fault.isNoLines then do
      Run.log .debug ("disassembly failed for " ++ label ++ ": " ++ fault.message)
      pure []
    else Run.fail fault

/-- Is there a DELEGATECALL without the tail, and with it? -/
def checkSide (d : Disassembler) (text : Option Text) (label : Text) : Run (Bool × Bool) :=
  let code := Bytecode.ofText text
  if code.isEmpty then pure (false, false)
  else do
    let stripped ← d.listingOrNone code.stripped (label ++ " (stripped)")
    let full ← d.listingOrNone code (label ++ " (full)")
    pure (Listing.hasHit stripped, Listing.hasHit full)

/-- The evidence in the two codes of the artifact at a path. -/
def evidence (d : Disassembler) (path : Text) (runtime creation : Option Text) : Run Evidence := do
  let (runtimeStripped, runtimeFull) ← d.checkSide runtime (path ++ " runtime")
  let (creationStripped, creationFull) ← d.checkSide creation (path ++ " creation")
  let found : Evidence := ⟨runtimeStripped, creationStripped, runtimeFull, creationFull⟩
  if found.metadataOnly then
    Run.log .debug ("DELEGATECALL only in metadata tail: " ++ path)
  pure found

end Disassembler
end DelegateAudit

import DelegateAudit.Run
import DelegateAudit.Text.Blank

/-!
# DelegateAudit — disassemblers

A disassembler is a function from code to lines, or to a fault; which programs it starts
on the way depends on the code alone as well. `castDisassembler` is the one used in
earnest: it hands the code to an external program as hex text. `byteDisassembler` writes
one line for every byte and needs no program.
-/

namespace DelegateAudit

/-- A disassembler. -/
structure Disassembler where
  /-- The lines of some code. -/
  lines : Bytes → Except Fault (List Text)
  /-- The programs started for some code. -/
  calls : Bytes → List Call := fun _ => []

namespace Disassembler

/-- Disassemble code, leaving a trace in the journal. -/
def run (d : Disassembler) (code : Bytes) : Run (List Text) :=
  ⟨d.lines code, .disassembly code :: (d.calls code).map .process⟩

end Disassembler

/-! ## One line for every byte -/

/-- The line of one byte. -/
def byteLine (offset : Nat) (byte : UInt8) : Text :=
  Text.ofHex 8 offset ++ ": " ++
    (if byte = 0xF4 then ("DELEGATECALL" : Text) else "OP_" ++ Text.ofHex 2 byte.toNat)

/-- The lines of bytes from some offset on. -/
def byteLines : (offset : Nat) → Bytes → List Text
  | _, [] => []
  | offset, byte :: rest => byteLine offset byte :: byteLines (offset + 1) rest

/-- The disassembler that writes one line for every byte. -/
def byteDisassembler : Disassembler := { lines := fun code => .ok (byteLines 0 code) }

/-- The same as a program: it reads hex text after `0x` and prints the lines. What is no hex text is
taken for no code. -/
def byteProgram (input : Option Text) : Ending :=
  let code := (Text.hexBytes ((input.getD []).drop 2)).toOption.getD []
  .finished ⟨(byteLines 0 code).flatMap fun line => line ++ "\n", [], 0⟩

/-! ## An external program -/

/-- The last line a program wrote about what went wrong. -/
def Finished.lastComplaint? (result : Finished) : Option Text := result.errors.strip.lines.getLast?

/-- Fail unless a program is there. -/
def ensureTool (tool hint : Text) (available : Bool) : Except Fault Unit :=
  if available then .ok () else .error (.toolMissing tool hint)

/-- What to do when the disassembling program is missing. -/
def castHint : Text := "Install foundry (foundryup)."

/-- What is handed to the disassembling program. -/
def castInput (code : Bytes) : Text := "0x" ++ code.hex

/-- The lines of code as an external program gives them. -/
def castLines (tools : Toolbox) (tool : Text) (limit : TimeLimit) (code : Bytes) :
    Except Fault (List Text) :=
  if code.isEmpty then .ok []
  else
    match tools.run tool (some (castInput code)) with
    | .notFound => .error (.disassembly (.notFound tool))
    | .timedOut => .error (.disassembly (.timedOut tool limit))
    | .denied => .error (.system ⟨.accessDenied, tool⟩)
    | .finished result =>
      if result.status = 0 then .ok result.output.lines
      else
        let reason := result.lastComplaint?.getD ("exit code " ++ Text.ofInt result.status)
        .error (.disassembly (.failed tool reason))

/-- The disassembler that asks an external program. Empty code is not worth asking about. -/
def castDisassembler (tools : Toolbox) (tool : Text) (limit : TimeLimit) : Disassembler where
  lines := castLines tools tool limit
  calls code :=
    if code.isEmpty then [] else [⟨[tool, "disassemble"], some (castInput code), limit⟩]

end DelegateAudit

import DelegateAudit.Check
import DelegateAudit.CommandLine.Outcome

/-!
# DelegateAudit — the checking program

`delegscan-check` checks one contract, named by its source file and its name.
-/

namespace DelegateAudit.CommandLine

/-- The options of the checking program. -/
structure CheckOptions where
  source : Text := []
  contract : Text := []
  /-- How many lines to show before and after a hit; unknown if the option was cleared. -/
  reach : Option Int := some 0
  debug : Bool := false

namespace CheckOptions

/-- Take a number of lines. -/
def takeReach (t : Text) (o : CheckOptions) : Except Text CheckOptions :=
  match t.toInt? with
  | some reach => .ok { o with reach := some reach }
  | none => .error ("invalid int value: " ++ t.quoted)

/-- The program. -/
def program : Program CheckOptions where
  name := "delegscan-check"
  usage := ["usage: delegscan-check [-h] [--show N] [--debug] solidity_path contract_name"]
  description := "检查单个合约运行时字节码中的 DELEGATECALL"
  positionals :=
    [⟨"solidity_path", true, fun t o => { o with source := t }, "Solidity 源文件路径"⟩,
     ⟨"contract_name", true, fun t o => { o with contract := t }, "合约名"⟩]
  flags :=
    [⟨["-h", "--help"], .help, "show this help message and exit"⟩,
     ⟨["--show"], .take "N" takeReach fun o => { o with reach := none },
      "输出每处命中前后 N 行反汇编（默认只输出行号）"⟩,
     ⟨["--debug"], .set fun o => { o with debug := true }, "诊断信息输出到 stderr"⟩]

/-- The contract, as the external program wants it named. -/
def target (o : CheckOptions) : Text := o.source ++ ":" ++ o.contract

end CheckOptions

/-- The notice and the exit status for a fault of the check itself. Other faults are not handled. -/
def checkFailure? (fault : Fault) : Option (Text × Nat) :=
  match fault with
  | .toolMissing _ _ => some (fault.message, toolMissingStatus)
  | .undecodable _ _ | .disassembly _ | .inspection _ _ | .rules _ | .unreadableArtifact _ _
  | .artifactNotObject _ => some ("Error: " ++ fault.message, 1)
  | _ => none

/-- Obtain the code of a contract and print what is found in it. -/
def inspectAndPrint (w : Surroundings) (d : Disassembler) (o : CheckOptions) : Run Unit := do
  let hex ← Check.inspect w.tools w.settings.forgeBin (.fraction w.settings.forgeTimeout) o.target
  match o.reach with
  | some reach => Check.report d (some hex) reach
  | none => Check.reportUnbounded d (some hex)

/-- Run the checking program with its options. Without a disassembler the external one is used. -/
def runCheck (w : Surroundings) (disassembler : Option Disassembler) (o : CheckOptions) :
    Run Nat := do
  let settings := w.settings
  if !w.tools.has settings.forgeBin then
    Run.notice ("missing: " ++ settings.forgeBin)
    return toolMissingStatus
  if disassembler.isNone && !w.tools.has settings.castBin then
    Run.notice ("missing: " ++ settings.castBin)
    return toolMissingStatus
  let d := disassembler.getD
    (castDisassembler w.tools settings.castBin (.fraction settings.disassembleTimeout))
  match ← (inspectAndPrint w d o).attempt with
  | .ok _ => return 0
  | .error fault =>
    match checkFailure? fault with
    | none => Run.fail fault
    | some (text, status) =>
      Run.notice text
      return status

/-- The checking program. -/
def check (w : Surroundings) (disassembler : Option Disassembler) (words : List Text) : Outcome :=
  CheckOptions.program.start w.sink {} words CheckOptions.debug (runCheck w disassembler)

end DelegateAudit.CommandLine

import DelegateAudit.CommandLine.Check
import DelegateAudit.CommandLine.Scan

/-!
# DelegateAudit — the executable

The first word names the program, `scan` or `check`; the others are for the program. The
files that it may see are named on standard input, one path to a line, as a file finder
prints them. No other program is started: the byte disassembler stands in for the
external one, and there is no program that prints the code of a contract.
-/

namespace DelegateAudit.Executable

open CommandLine

/-- The variables that are looked up in the environment. -/
def variableNames : List String :=
  ["DELEGSCAN_CAST_BIN", "DELEGSCAN_FORGE_BIN", "DELEGSCAN_DISASSEMBLE_TIMEOUT",
   "DELEGSCAN_FORGE_TIMEOUT", "DELEGSCAN_ARTIFACT_DIR", "DELEGSCAN_SOURCE_ROOT",
   "DELEGSCAN_RULES_FILE"]

/-- The environment. -/
def environment : IO (List (Text × Text)) :=
  variableNames.filterMapM fun name => do
    let value ← IO.getEnv name
    return value.map fun value => (Text.ofString name, Text.ofString value)

/-- The lines of a stream, without their ends. -/
partial def readLines (stream : IO.FS.Stream) (done : List String) : IO (List String) := do
  let line ← stream.getLine
  if line.isEmpty then return done.reverse
  readLines stream (String.ofList (line.toList.filter (· ≠ '\n')) :: done)

/-- The tree of the files at some paths; a file that cannot be read is not there. -/
def readTree (paths : List String) : IO FileTree := do
  let mut tree : FileTree := { entries := [] }
  for path in paths do
    let content ← (IO.FS.readBinFile path).toBaseIO
    match content with
    | .error _ => pure ()
    | .ok bytes => tree := (tree.write (Text.ofString path) (.file bytes.toList)).toOption.getD tree
  return tree

/-- Write what a program left, and give its exit status. -/
def finish (outcome : Outcome) : IO UInt32 := do
  IO.print outcome.output.toString
  IO.eprint outcome.errors.toString
  match outcome.exit with
  | .status n => return n.toUInt32
  | .fault cause =>
    IO.eprintln cause.message.toString
    return 1
  | .badHelp cause =>
    IO.eprintln cause.message.toString
    return 1

/-- Run the program with the given name. -/
def runProgram (program : Surroundings → List Text → Outcome) (words : List String) :
    IO UInt32 := do
  let tree ← readTree (← readLines (← IO.getStdin) [])
  match Settings.load (← environment) tree with
  | .error _ =>
    IO.eprintln Settings.notNumberMessage.toString
    return 1
  | .ok settings =>
    let surroundings :=
      { tree, tools := [(settings.castBin, byteProgram)], settings, sink := .utf8 }
    finish (program surroundings (words.map Text.ofString))

end DelegateAudit.Executable

/-- The executable. -/
def main : List String → IO UInt32
  | "scan" :: words => DelegateAudit.Executable.runProgram DelegateAudit.CommandLine.scan words
  | "check" :: words =>
    DelegateAudit.Executable.runProgram (fun w => DelegateAudit.CommandLine.check w none) words
  | _ => do
    IO.eprintln "usage: (scan | check) ..."
    return 2

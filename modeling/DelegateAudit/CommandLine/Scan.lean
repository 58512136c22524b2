import DelegateAudit.CommandLine.Outcome
import DelegateAudit.Report
import DelegateAudit.Scan

/-!
# DelegateAudit — the scanning program

`delegscan-scan` scans the artifacts below a directory and prints a table or JSON.
-/

namespace DelegateAudit.CommandLine

/-- The options of the scanning program. -/
structure ScanOptions where
  artifactDir : Option Text := none
  mode : Mode := .onlyDelegating
  strict : Bool := false
  debug : Bool := false
  json : Bool := false
  sourceRoot : Option Text := none
  rules : Option Text := none

namespace ScanOptions

/-- The mode to scan in. -/
def effectiveMode (o : ScanOptions) : Mode := if o.strict then .strict else o.mode

/-- The options by name. -/
def flags (settings : Settings) : List (Flag ScanOptions) :=
  [⟨["-h", "--help"], .help, "show this help message and exit"⟩,
   ⟨["--all"], .set fun o => { o with mode := .all }, "输出全部产物，无论是否含 DELEGATECALL"⟩,
   ⟨["--only-deleg"], .set fun o => { o with mode := .onlyDelegating },
    "仅输出剥离元数据后仍含 DELEGATECALL 的产物（默认）"⟩,
   ⟨["--strict"], .set fun o => { o with strict := true },
    "仅输出 LIKELY-REACHABLE（隐含 --only-deleg）"⟩,
   ⟨["--debug"], .set fun o => { o with debug := true }, "诊断信息输出到 stderr"⟩,
   ⟨["--json"], .set fun o => { o with json := true }, "以 JSON 输出结果"⟩,
   ⟨["--source-root"], .take "SOURCE_ROOT" (fun t o => .ok { o with sourceRoot := some t })
      fun o => { o with sourceRoot := none },
    "源文件解析根目录（默认 " ++ settings.sourceRoot ++ "）"⟩,
   ⟨["--rules"], .take "RULES" (fun t o => .ok { o with rules := some t })
      fun o => { o with rules := none },
    "覆盖内置启发式规则的 JSON 文件"⟩]

/-- The program with its defaults shown in the help text. -/
def program (settings : Settings) : Program ScanOptions where
  name := "delegscan-scan"
  usage :=
    ["usage: delegscan-scan [-h] [--all] [--only-deleg] [--strict] [--debug]",
     "                      [--json] [--source-root SOURCE_ROOT] [--rules RULES]",
     "                      [artifact_dir]"]
  description := "构建产物 DELEGATECALL 可达性扫描"
  positionals :=
    [⟨"artifact_dir", false, fun t o => { o with artifactDir := some t },
      "构建产物目录（默认 " ++ settings.artifactDir ++ "）"⟩]
  flags := flags settings

end ScanOptions

/-- Scan and print: JSON at the end, or the lines of a table as they become known. The counts of a
scan are those of files, and never have too many digits. -/
def scanAndPrint (scanner : Scanner) (tree : FileTree) (root : Text) (json : Bool) : Run Unit := do
  if json then
    let found ← scanner.scan tree root fun _ => pure ()
    Run.print (← Run.ofExcept (Report.json none found))
  else
    Run.each Run.print (Report.header root)
    let found ← scanner.scan tree root fun record => Run.each Run.print (Report.recordLines record)
    Run.each Run.print (Report.footer found.mode found.summary)

/-- Run the scanning program with its options. -/
def runScan (w : Surroundings) (o : ScanOptions) : Run Nat := do
  let settings := w.settings
  if !w.tools.has settings.castBin then
    Run.notice ("Error: foundry '" ++ settings.castBin ++ "' not found. " ++ castHint)
    return toolMissingStatus
  match ← (RuleTables.load w.engine w.tree ((given? o.rules).or settings.rulesFile)).attempt with
  | .error (.rules cause) =>
    Run.notice ("Error: " ++ cause.message)
    return 1
  | .error fault => Run.fail fault
  | .ok rules =>
    let limit := TimeLimit.fraction settings.disassembleTimeout
    let scanner : Scanner := {
      disassembler := castDisassembler w.tools settings.castBin limit
      sourceRoot := (given? o.sourceRoot).getD settings.sourceRoot
      rules
      mode := o.effectiveMode }
    scanAndPrint scanner w.tree ((given? o.artifactDir).getD settings.artifactDir) o.json
    return 0

/-- The scanning program. -/
def scan (w : Surroundings) (words : List Text) : Outcome :=
  (ScanOptions.program w.settings).start w.sink {} words ScanOptions.debug (runScan w)

end DelegateAudit.CommandLine

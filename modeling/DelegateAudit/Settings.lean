import DelegateAudit.VariableFile
import DelegateAudit.Number.Reader
import DelegateAudit.Rules

/-!
# DelegateAudit — settings

Every setting has a default and can be given by a variable of the environment or of the
file `.env` in the working directory; the environment wins. Variables are known by the
name of the setting after `DELEGSCAN_`, in any letter case, and other variables do not
matter.
-/

namespace DelegateAudit

/-- What can be set. -/
structure Settings where
  /-- The disassembling program. -/
  castBin : Text := "cast"
  /-- The program that prints the code of a contract. -/
  forgeBin : Text := "forge"
  /-- Seconds that disassembling may take. -/
  disassembleTimeout : Binary64 := .ofRatio false 60 1
  /-- Seconds that printing the code of a contract may take. -/
  forgeTimeout : Binary64 := .ofRatio false 300 1
  /-- The directory of the artifacts. -/
  artifactDir : Text := "out"
  /-- The directory in which sources are looked for. -/
  sourceRoot : Text := "."
  /-- A file of rules. -/
  rulesFile : Option Text := none
deriving DecidableEq, Repr

namespace Settings

/-- Why there are no settings. -/
inductive Fault where
  /-- Some settings should be numbers and are not. -/
  | notNumbers (names : List Text)
  /-- The file of variables is no text. -/
  | unreadable (cause : ReadFault)
deriving DecidableEq, Repr

/-- What is wrong with a setting that should be a number. -/
def notNumberMessage : Text :=
  "Input should be a valid number, unable to parse string as a number"

/-- What a variable's name starts with, in lower case. -/
def mark : Text := "delegscan_"

/-- The value of a setting among variables; of several that are spelled differently the last one
counts. -/
def find? (known : List VariableFile.Binding) (name : Text) : Option Text :=
  ((known.filter fun v => v.1.lower = mark ++ name).getLast?).bind Prod.snd

/-- A setting that is a number: its value, or its name if it is not one. -/
def number (value? : Text → Option Text) (name : Text) (default : Binary64) :
    Except Text Binary64 :=
  match value? name with
  | none => .ok default
  | some t =>
    match Binary64.ofText? t with
    | some x => .ok x
    | none => .error name

/-- The name of a setting that went wrong. -/
def wrong? (outcome : Except Text Binary64) : Option Text :=
  match outcome with
  | .ok _ => none
  | .error name => some name

/-- The settings that are given by name. -/
def ofValues (value? : Text → Option Text) : Except Fault Settings :=
  let base : Settings := {}
  let disassembling := number value? "disassemble_timeout" base.disassembleTimeout
  let inspecting := number value? "forge_timeout" base.forgeTimeout
  match disassembling, inspecting with
  | .ok disassembleTimeout, .ok forgeTimeout =>
    .ok {
      castBin := (value? "cast_bin").getD base.castBin
      forgeBin := (value? "forge_bin").getD base.forgeBin
      disassembleTimeout, forgeTimeout
      artifactDir := (value? "artifact_dir").getD base.artifactDir
      sourceRoot := (value? "source_root").getD base.sourceRoot
      rulesFile := value? "rules_file" }
  | _, _ => .error (.notNumbers ((wrong? disassembling).toList ++ (wrong? inspecting).toList))

/-- The file of variables, if there is one. -/
def fileText (tree : FileTree) : Except Fault Text :=
  match tree.isFile (Path.ofText ".env") with
  | .ok true =>
    match tree.read ".env" with
    | .error fault => .error (.unreadable (.path fault))
    | .ok bytes =>
      match bytes.decodeUtf8 with
      | .error fault => .error (.unreadable (.encoding fault))
      | .ok text => .ok text.withoutByteOrderMark.unifyNewlines
  | _ => .ok []

/-- The settings in an environment and a working directory. -/
def load (environment : List (Text × Text)) (tree : FileTree) : Except Fault Settings := do
  let text ← fileText tree
  let inFile := VariableFile.read environment text
  let inEnvironment := environment.map fun (name, value) => (name, some value)
  ofValues fun name => (find? inEnvironment name).or (find? inFile name)

end Settings
end DelegateAudit

import DelegateAudit.CommandLine.Help
import DelegateAudit.Console
import DelegateAudit.Rules
import DelegateAudit.Settings

/-!
# DelegateAudit — running a program from the command line

A program gets its words, its settings, the files and the other programs there are. It
ends with an exit status and leaves texts for the reader of the results and about itself.
Help and complaints about the words are written as they are; what the run of the program
itself prints goes through the console. Help and results may not be taken where they go
(`Sink`), and then the program ends with a fault.
-/

namespace DelegateAudit.CommandLine

/-- What a program finds when it is started. -/
structure Surroundings where
  tree : FileTree
  tools : Toolbox
  settings : Settings
  /-- What rule files' patterns are read with. -/
  engine : Pattern.Engine := .standard
  /-- Where help and results go. -/
  sink : Sink := {}

/-- How a program ends. -/
inductive Exit where
  | status (n : Nat)
  /-- Something went wrong that the program does not handle. -/
  | fault (cause : Fault)
  /-- The help text could not be written. -/
  | badHelp (cause : PlaceholderFault)
deriving DecidableEq, Repr

/-- What a program leaves. -/
structure Outcome where
  exit : Exit
  output : Text := []
  errors : Text := []
  journal : List Event := []

/-- The exit status when another program is missing. -/
def toolMissingStatus : Nat := 127

/-- The exit status when the words are wrong. -/
def usageStatus : Nat := 2

/-- A text, unless it is missing or empty. -/
def given? (t : Option Text) : Option Text := t.filter fun t => !t.isEmpty

/-- What a run leaves. -/
def Outcome.ofRun (debug : Bool) (run : Run Nat) : Outcome where
  exit :=
    match run.outcome with
    | .ok status => .status status
    | .error fault => .fault fault
  output := Console.output run.journal
  errors := Console.errors debug run.journal
  journal := run.journal

/-- Start a program: read its words and run it with its options. -/
def Program.start {σ : Type} (p : Program σ) (sink : Sink) (defaults : σ) (words : List Text)
    (isDebug : σ → Bool) (run : σ → Run Nat) : Outcome :=
  match p.parse defaults words with
  | .ok options => .ofRun (isDebug options) (Console.through sink (run options))
  | .error .help =>
    match p.helpText with
    | .ok text =>
      match sink.refusal? text with
      | none => { exit := .status 0, output := text }
      | some reason => { exit := .fault (.unprintable reason) }
    | .error cause => { exit := .badHelp cause }
  | .error (.complaint text) =>
    { exit := .status usageStatus, errors := p.complaintText text }

end DelegateAudit.CommandLine

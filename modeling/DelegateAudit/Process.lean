import DelegateAudit.Number.Shortest

/-!
# DelegateAudit — external programs

Two external programs are ever run: one that disassembles code and one that prints the
code of a contract. Which programs exist, and what each does with its input, is given as
a value (`Toolbox`), so everything that depends on them is a function.
-/

namespace DelegateAudit

/-- The longest time a program may take. -/
inductive TimeLimit where
  | unlimited
  | seconds (n : Int)
  | fraction (x : Binary64)
deriving DecidableEq, Repr

/-- A time limit as messages show it. -/
def TimeLimit.toText : TimeLimit → Text
  | .unlimited => "None"
  | .seconds n => Text.ofInt n
  | .fraction x => x.toText

/-- One run of a program: its words, what it was given to read, and its time limit. -/
structure Call where
  command : List Text
  input : Option Text
  limit : TimeLimit
deriving DecidableEq, Repr

/-- What a finished program leaves. -/
structure Finished where
  output : Text
  errors : Text
  status : Int
deriving DecidableEq, Repr

/-- How running a program can end. -/
inductive Ending where
  | finished (result : Finished)
  | notFound
  | timedOut
  | denied
deriving DecidableEq, Repr

/-- The programs there are, each with what it does on an input. -/
abbrev Toolbox := List (Text × (Option Text → Ending))

namespace Toolbox

/-- Is there a program of this name? The empty name is no program. -/
def has (tools : Toolbox) (name : Text) : Bool := !name.isEmpty && (tools.lookup name).isSome

/-- Run a program. -/
def run (tools : Toolbox) (name : Text) (input : Option Text) : Ending :=
  match tools.lookup name with
  | none => .notFound
  | some program => program input

end Toolbox
end DelegateAudit

import DelegateAudit.Json.Reader

/-!
# DelegateAudit — limits

Work that follows the nesting of what it works on can go only so deep. How deep that is belongs to
the machine and not to the rules of the scan: it differs from one to the next, and with how much
else is going on. So the limits are data that comes with the files (`FileTree.limits`), and a
statement about all file trees is one about all limits.
-/

namespace DelegateAudit

/-- A limit to how deep values are followed: what keeps a machine from following a value at some
level, if anything does. The text says what was being done. -/
abbrev DepthLimit := Nat → Json.Value → Option Text

/-- No limit. -/
def DepthLimit.unlimited : DepthLimit := fun _ _ => none

/-- A limit at some level, whatever the value. -/
def DepthLimit.atLevel (deepest : Nat) : DepthLimit := fun level _ =>
  if level ≤ deepest then none else some []

/-- How far a machine goes. -/
structure Limits where
  /-- How many directories, one inside the other, the search for artifacts goes down. -/
  artifactLevels : Nat := 989
  /-- The same for the search for sources, which may depend on the name that is looked for. -/
  sourceLevels : Text → Nat := fun _ => 987
  /-- How far a rule file is read, which comes before all other work. -/
  ruleFile : Json.Bounds := { nesting := 991 }
  /-- How far an artifact is read. -/
  artifact : Json.Bounds := { nesting := 989 }
  /-- How far the metadata that an artifact spells out in a string is read. -/
  metadata : Json.Bounds := { nesting := 988 }
  /-- How deep the tuples of a parameter are followed. -/
  expansion : DepthLimit := .atLevel 332
  /-- How many values, one inside the other, a message quotes. -/
  quoting : Nat := 995
  /-- How many digits a whole number may have to be quoted, if there is a bound. -/
  digits : Option Nat := some Text.digitLimit

end DelegateAudit

import DelegateAudit.CommandLine.Options
import DelegateAudit.CommandLine.Placeholder
import DelegateAudit.Text.Paragraph

/-!
# DelegateAudit — usage and help

A complaint is shown below the usage of the program. The help text goes on after the
usage with a description and a list of all positionals and options, each with what it is
for. The lists have two columns; a name too long for the first one has a line of its own.

What an entry is for may mention facts about it (`Entry.facts`, `expand`).
-/

namespace DelegateAudit.CommandLine

/-- The columns of a help text. -/
def helpWidth : Nat := 78

/-- The widest first column, with the blanks around it. -/
def widestColumn : Nat := 24

/-- The blanks before an entry, and between its columns. -/
def indent : Nat := 2

/-! ## Entries -/

/-- An entry of a list: its name as it is written, and what it is for. -/
structure Entry where
  name : Text
  help : Text
  /-- All its names, if it is an option. -/
  names : List Text
  /-- The name of what it sets. -/
  target : Text
  required : Bool
  optional : Bool

/-- What the help text of an entry may mention. -/
def Entry.facts (program : Text) (entry : Entry) : Facts :=
  [("option_strings", .texts entry.names),
   ("dest", .text entry.target),
   ("nargs", if entry.optional then .text "?" else .absent),
   ("const", .absent),
   ("default", .absent),
   ("type", .absent),
   ("choices", .absent),
   ("required", .truth entry.required),
   ("help", .text entry.help),
   ("metavar", .absent),
   ("prog", .text program)]

variable {σ : Type}

/-- The entry of a positional. -/
def Positional.entry (positional : Positional σ) : Entry where
  name := positional.name
  help := positional.help
  names := []
  target := positional.name
  required := positional.required
  optional := !positional.required

/-- The name of what an option sets: its first long name, in words with underscores. -/
def Flag.target (flag : Flag σ) : Text :=
  let long := (flag.names.find? fun name => ("--" : Text).isPrefixOf name).getD []
  (long.drop 2).map fun c => if c = .scalar '-' then .scalar '_' else c

/-- The entry of an option: all its names, each with a placeholder if it takes a value. -/
def Flag.entry (flag : Flag σ) : Entry where
  name :=
    let value : Text :=
      match flag.action with
      | .take placeholder _ _ => " " ++ placeholder
      | _ => []
    Text.join ", " (flag.names.map fun name => name ++ value)
  help := flag.help
  names := flag.names
  target := flag.target
  required := false
  optional := false

/-- The column in which the second column starts. -/
def helpColumn (entries : List Entry) : Nat :=
  let longest := (entries.map fun entry => entry.name.length).foldl max 0
  min (indent + longest + indent) widestColumn

/-- Make every stretch of blanks one; the flag tells whether a blank comes just before. -/
def squeezeFrom : (afterSpace : Bool) → Text → Text
  | _, [] => []
  | afterSpace, c :: rest =>
    if !Paragraph.isSpace c then c :: squeezeFrom false rest
    else if afterSpace then squeezeFrom true rest
    else .scalar ' ' :: squeezeFrom true rest

/-- A text with every stretch of blanks made one, and none around it. -/
def squeeze (t : Text) : Text := Text.strip (squeezeFrom false t)

/-- The lines of an entry. -/
def entryLines (column : Nat) (name help : Text) : List Text :=
  let lines := Paragraph.wrap (max (helpWidth - column) 11) (squeeze help)
  let indented := lines.map fun line => Text.blanks column ++ line
  let head := Text.blanks indent ++ name
  if head.length + indent ≤ column then
    match lines with
    | [] => [head]
    | first :: _ => (head.padRight column ++ first) :: indented.drop 1
  else head :: indented

/-- The lines of a list of entries under a title. -/
def listLines (program : Text) (column : Nat) (title : Text) (entries : List Entry) :
    Except PlaceholderFault (List Text) := do
  let lines ← entries.mapM fun entry => do
    return entryLines column entry.name (← expand (entry.facts program) entry.help)
  return [] :: (title ++ ":") :: lines.flatten

/-! ## Whole texts -/

/-- Lines as one text. -/
def unlines (lines : List Text) : Text := lines.flatMap fun line => line ++ "\n"

namespace Program

/-- The help text. -/
def helpText (p : Program σ) : Except PlaceholderFault Text := do
  let positionals := p.positionals.map Positional.entry
  let flags := p.flags.map Flag.entry
  let column := helpColumn (positionals ++ flags)
  let upper ← listLines p.name column "positional arguments" positionals
  let lower ← listLines p.name column "options" flags
  return unlines (p.usage ++ [[], p.description] ++ upper ++ lower)

/-- What is shown for a complaint. -/
def complaintText (p : Program σ) (complaint : Text) : Text :=
  unlines (p.usage ++ [p.name ++ ": error: " ++ complaint])

end Program
end DelegateAudit.CommandLine

import DelegateAudit.Pattern.Parser
import DelegateAudit.Pattern.Search
import DelegateAudit.Run

/-!
# DelegateAudit — rule tables

What counts as a forwarder function and what counts as a DELEGATECALL in source text is
decided by two tables with a version each. Every entry of a table can be overridden from
a JSON file (`RuleTables.load`); what the file leaves out keeps its built-in value.

Which texts are patterns and what they find is for a pattern engine to say (`Pattern.Engine`). The
only thing asked of one is that it knows the built-in patterns, so what holds of the tables for
every engine does not depend on how much of the written form of patterns an engine knows.
`Pattern.Engine.standard` knows what `Pattern.parse` reads.

Sets of texts are kept sorted and without repetition, so tables with the same sets are
equal.
-/

namespace DelegateAudit

open Json

/-- Put a text into a sorted list, unless it is there. -/
def insertText (t : Text) : List Text → List Text
  | [] => [t]
  | u :: rest =>
    match Text.cmp t u with
    | .lt => t :: u :: rest
    | .eq => u :: rest
    | .gt => u :: insertText t rest

/-- A set of texts as a sorted list. -/
def textSet (texts : List Text) : List Text := texts.foldr insertText []

/-! ## Forwarder functions -/

/-- How forwarder functions are recognised. -/
structure ForwarderRules where
  version : Text
  /-- Names of such functions. -/
  names : List Text
  /-- Comma-joined parameter types of such functions. -/
  exactSignatures : List Text
  /-- Groups of types; parameter types in which all of a group occur are those of a forwarder. -/
  groups : List (List Text)
deriving DecidableEq, Repr

namespace ForwarderRules

/-- Is this the name of a forwarder? -/
def nameMatches (rules : ForwarderRules) (name : Text) : Bool := rules.names.elem name

/-- Are these the comma-joined parameter types of a forwarder? -/
def signatureMatches (rules : ForwarderRules) (signature : Text) : Bool :=
  rules.exactSignatures.elem signature ||
    rules.groups.any fun group => group.all fun t => Text.contains t signature

/-- The built-in table. -/
def standard : ForwarderRules where
  version := "1"
  names := textSet
    ["upgrade", "upgradeTo", "upgradeToAndCall", "upgradeImplementation", "upgradeImpl",
     "setImplementation", "setCode", "setCodeAndCall", "execute", "forward", "delegateCall",
     "delegateExecute", "routerExecute", "multicallDelegate", "impl", "implementation"]
  exactSignatures := textSet ["address", "bytes", "bytes,bytes"]
  groups := [["address", "bytes"]]

/-- The table as a JSON object. -/
def toValue (rules : ForwarderRules) : Value :=
  .obj
    [("version", .str rules.version),
     ("names", .arr (rules.names.map .str)),
     ("exact_signatures", .arr (rules.exactSignatures.map .str)),
     ("cooccurring_types", .arr (rules.groups.map fun group => .arr (group.map .str)))]

end ForwarderRules

/-! ## Source patterns -/

/-- What makes patterns of texts: a pattern is the test whether a line has a match. -/
abbrev Pattern.Reader := Text → Except Pattern.Fault (Text → Bool)

/-- The reader of the patterns described in `Pattern.parse`. -/
def Pattern.reader : Pattern.Reader := fun t => (Pattern.parse t).map Pattern.search

/-- The patterns that mark a DELEGATECALL in a line of source text. -/
structure SourcePatterns where
  version : Text
  /-- The patterns as written. -/
  written : List Text
  /-- The patterns as read. -/
  patterns : List (Text → Bool)

namespace SourcePatterns

/-- Does some pattern have a match in the line? -/
def search (table : SourcePatterns) (line : Text) : Bool := table.patterns.any (· line)

/-- The built-in patterns: a call on a target, a library call, and inline assembly on one line. -/
def standardWritten : List Text :=
  ["\\.delegatecall\\s*\\(", "functionDelegateCall\\s*\\(",
   "assembly\\s*\\\x7b[^\x7d]*delegatecall"]

/-- The built-in table. -/
def standard : SourcePatterns where
  version := "1"
  written := standardWritten
  patterns := ((standardWritten.mapM Pattern.parse).toOption.getD []).map Pattern.search

/-- A table of written patterns. -/
def ofWritten (read : Pattern.Reader) (version : Text) (written : List Text) :
    Except Fault SourcePatterns :=
  match written.mapM read with
  | .ok patterns => .ok ⟨version, written, patterns⟩
  | .error (.breakdown cause) => .error (.pattern cause)
  | .error (.refusal cause) => .error (.rules (.badPattern cause))

/-- The table as a JSON object. -/
def toValue (table : SourcePatterns) : Value :=
  .obj [("version", .str table.version), ("patterns", .arr (table.written.map .str))]

end SourcePatterns

/-- Reading texts is reading patterns and making tests of them. -/
theorem Pattern.mapM_reader (written : List Text) :
    written.mapM reader = (written.mapM parse).map (List.map search) := by
  induction written with
  | nil => rfl
  | cons t rest ih =>
    rw [List.mapM_cons, List.mapM_cons, ih, reader]
    cases parse t with
    | error fault => rfl
    | ok p =>
      cases rest.mapM parse with
      | error fault => rfl
      | ok ps => rfl

/-- A reader of patterns that knows the built-in ones. -/
structure Pattern.Engine where
  read : Pattern.Reader
  knowsStandard : SourcePatterns.standardWritten.mapM read = .ok SourcePatterns.standard.patterns

/-- The engine of the patterns described in `Pattern.parse`. -/
def Pattern.Engine.standard : Pattern.Engine where
  read := reader
  knowsStandard := by
    have hread : (SourcePatterns.standardWritten.mapM parse).isOk = true := by decide +kernel
    rw [mapM_reader, SourcePatterns.standard]
    cases hparsed : SourcePatterns.standardWritten.mapM parse with
    | error fault =>
      rw [hparsed] at hread
      cases hread
    | ok patterns => rfl

/-! ## Both tables -/

/-- All rules. -/
structure RuleTables where
  forwarder : ForwarderRules := .standard
  sources : SourcePatterns := .standard

/-- The tables as a JSON object. -/
def RuleTables.toValue (tables : RuleTables) : Value :=
  .obj [("forwarder", tables.forwarder.toValue), ("source_patterns", tables.sources.toValue)]

/-! ## Overriding -/

/-- A JSON value that is a list of strings. -/
def strings? : Value → Option (List Text)
  | .arr items => items.mapM Value.text?
  | _ => none

/-- The strings under a key of a section, or the given ones if the key is missing. -/
def stringsAt (part : Members) (key : Text) (base : List Text) : Except Fault (List Text) :=
  match part.get? key with
  | none => .ok base
  | some v =>
    match strings? v with
    | some texts => .ok texts
    | none => .error (.rules (.notStrings key))

/-- The text under a key of a section, whatever value it has, or the given one if it is missing. -/
def textAt (part : Members) (key base : Text) : Text :=
  match part.get? key with
  | none => base
  | some v => v.display

/-- The key of the groups of types. -/
def groupsKey : Text := "cooccurring_types"

/-- The groups under their key. -/
def groupsOf (v : Value) : Except Fault (List (List Text)) :=
  match v.elements? with
  | none => .error (.notIterable v.kindName)
  | some groups =>
    groups.mapM fun group =>
      match strings? group with
      | some texts => .ok texts
      | none => .error (.rules (.notStrings groupsKey))

/-- The forwarder table with what a section overrides. -/
def ForwarderRules.override (base : ForwarderRules) (part : Members) :
    Except Fault ForwarderRules := do
  let groups := part.get? groupsKey
  -- A string could be gone through letter by letter; it is refused before anything else.
  if (groups.bind Value.text?).isSome then throw (.rules .notTypeLists)
  let names ← stringsAt part "names" base.names
  let exactSignatures ← stringsAt part "exact_signatures" base.exactSignatures
  let groups ←
    match groups with
    | none => pure base.groups
    | some v => groupsOf v
  return ⟨textAt part "version" base.version, textSet names, textSet exactSignatures, groups⟩

/-- The pattern table with what a section overrides. -/
def SourcePatterns.override (read : Pattern.Reader) (base : SourcePatterns) (part : Members) :
    Except Fault SourcePatterns := do
  let written ← stringsAt part "patterns" base.written
  SourcePatterns.ofWritten read (textAt part "version" base.version) written

/-- A section of a rule file; one that is missing, null or empty overrides nothing. -/
def sectionOf (data : Members) (key file : Text) : Except Fault Members :=
  match data.get? key with
  | none => .ok []
  | some v =>
    if !v.isTruthy then .ok []
    else
      match v with
      | .obj members => .ok members
      | _ => .error (.rules (.sectionNotObject key file))

namespace RuleTables

/-- The tables that the content of a rule file describes. -/
def ofValue (read : Pattern.Reader) (file : Text) (data : Value) : Except Fault RuleTables :=
  match data with
  | .obj members => do
    let forwarder ← sectionOf members "forwarder" file
    let sources ← sectionOf members "source_patterns" file
    let forwarder ← ForwarderRules.standard.override forwarder
    let sources ← SourcePatterns.standard.override read sources
    return ⟨forwarder, sources⟩
  | _ => .error (.rules (.notObject file))

end RuleTables

/-- The JSON value in the file at a written path, read so far and no further. -/
def FileTree.readJson (tree : FileTree) (bounds : Bounds) (path : Text) : Except ReadFault Value :=
  match tree.read path with
  | .error fault => .error (.path fault)
  | .ok bytes =>
    match bytes.decodeUtf8 with
    | .error fault => .error (.encoding fault)
    | .ok text => (Json.parse bounds text.unifyNewlines).mapError .json

/-- Is this a fault of the rule file, rather than of reading files in general? -/
def ReadFault.isRuleFault : ReadFault → Bool
  | .path (.system _) => true
  | .json (.malformed _ _ _ _) => true
  | _ => false

/-- The tables of a rule file; the built-in ones if no file is named. -/
def RuleTables.load (engine : Pattern.Engine) (tree : FileTree) (file : Option Text) :
    Run RuleTables :=
  match file with
  | none | some [] => pure {}
  | some file =>
    match tree.readJson tree.limits.ruleFile file with
    | .error cause =>
      Run.fail (if cause.isRuleFault then .rules (.unreadable file cause) else .read cause)
    | .ok data => do
      let tables ← Run.ofExcept (RuleTables.ofValue engine.read file data)
      Run.log .info
        ("Loaded rule tables from " ++ file ++ ": forwarder v" ++ tables.forwarder.version ++
          ", source patterns v" ++ tables.sources.version)
      pure tables

end DelegateAudit

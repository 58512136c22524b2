import DelegateAudit.Rules

/-!
# DelegateAudit — build artifacts

A compiler leaves one JSON file for every contract. Two layouts are common, and both are
read with the same rules: bytecode is a string or an object with a string in it, and
metadata is an object or a string that spells one, under either of two keys.

Artifacts are all files below a directory whose names end in `.json`
(`FileTree.artifacts`). `Artifact.ofMembers` makes the artifact of a JSON object and
`FileTree.readArtifact` that of a file.
-/

namespace DelegateAudit

open Json

/-- What an artifact tells about a contract. -/
structure Artifact where
  /-- The path as it was written. -/
  path : Text
  contractName : Text
  /-- The code that runs, if the artifact has a place for it. -/
  runtime : Option Text
  /-- The code that creates the contract, if the artifact has a place for it. -/
  creation : Option Text
  abi : List Value
  primarySource : Option Text
  importedSources : List Text
deriving Inhabited

/-- Only artifacts with a place for running code are looked at. -/
def Artifact.isCandidate (artifact : Artifact) : Bool := artifact.runtime.isSome

/-- How artifacts are searched for. -/
def FileTree.artifactSearch (tree : FileTree) : FileTree.Search :=
  .fitting tree.limits.artifactLevels fun name => (".json" : Text).isSuffixOf name

/-- The artifacts below a directory, in order. -/
def FileTree.artifacts (tree : FileTree) (root : Text) : Run (List Path) :=
  let base := Path.ofText root
  match tree.directory? base with
  | .error fault => Run.fail (.system fault)
  | .ok none => do
    Run.log .debug ("artifact root does not exist: " ++ base.toText)
    pure []
  | .ok (some entries) =>
    Run.ofExcept ((FileTree.search base entries tree.artifactSearch).mapError .ofSearch)

namespace Artifact

/-! ## The parts of an artifact -/

/-- The bytecode text of a field. No field, null and false are no bytecode; a value of a wrong shape
is empty bytecode. -/
def bytecodeText : Option Value → Option Text
  | none | some .null | some (.bool false) => none
  | some (.obj members) => some (((Members.get? members "object").bind Value.text?).getD [])
  | some (.str t) => some t
  | some _ => some []

/-- The metadata under the first of some keys that has any; a string has to spell an object. -/
def metadataUnder (bounds : Bounds) (data : Members) : (keys : List Text) → Run Members
  | [] => pure []
  | key :: keys =>
    match data.get? key with
    | some (.obj members) => pure members
    | some (.str t) =>
      match Json.parse bounds t with
      | .ok (.obj members) => pure members
      | .ok _ => metadataUnder bounds data keys
      | .error _ => do
        Run.log .debug ("unparseable " ++ key ++ " string")
        metadataUnder bounds data keys
    | _ => metadataUnder bounds data keys

/-- The metadata of an artifact. -/
def metadata (bounds : Bounds) (data : Members) : Run Members :=
  metadataUnder bounds data ["metadata", "rawMetadata"]

/-- The member of an object that is an object itself, empty if there is none. -/
def objectAt (members : Members) (key : Text) : Members :=
  ((members.get? key).bind Value.members?).getD []

/-- Source paths and the contracts they were compiled for. -/
def compilationTarget (metadata : Members) : List (Text × Text) :=
  (objectAt (objectAt metadata "settings") "compilationTarget").map fun (source, contract) =>
    (source, contract.display)

/-- The paths of all sources. -/
def sources (metadata : Members) : List Text := (objectAt metadata "sources").map Prod.fst

/-- A member that is a string with something in it. -/
def nonEmptyText? (data : Members) (key : Text) : Option Text :=
  ((data.get? key).bind Value.text?).filter fun t => !t.isEmpty

/-- The name of the contract: its own, else that of the first target. -/
def nameOf (data metadata : Members) : Text :=
  match nonEmptyText? data "contractName", compilationTarget metadata with
  | some name, _ => name
  | none, (_, contract) :: _ => contract
  | none, [] => "UNKNOWN"

/-- The main source of a contract: the first target with its name; without any targets, the source
that is named, else the first of all. -/
def primarySourceOf (data metadata : Members) (name : Text) : Option Text :=
  match compilationTarget metadata with
  | [] =>
    (nonEmptyText? data "sourceName").or
      ((nonEmptyText? data "sourcePath").or (sources metadata).head?)
  | targets => (targets.find? fun target => target.2 = name).map Prod.fst

/-- The artifact of a JSON object; the bounds are those for metadata in a string. -/
def ofMembers (bounds : Bounds) (path : Text) (data : Members) : Run Artifact := do
  let metadata ← metadata bounds data
  let name := nameOf data metadata
  return {
    path
    contractName := name
    runtime := bytecodeText (data.get? "deployedBytecode")
    creation := bytecodeText (data.get? "bytecode")
    abi := match data.get? "abi" with
      | some (.arr entries) => entries
      | _ => []
    primarySource := primarySourceOf data metadata name
    importedSources := sources metadata }

end Artifact

/-- The artifact in the file at a written path. -/
def FileTree.readArtifact (tree : FileTree) (path : Text) : Run Artifact :=
  match tree.readJson tree.limits.artifact path with
  | .error cause => Run.fail (.unreadableArtifact path cause)
  | .ok (.obj data) => Artifact.ofMembers tree.limits.metadata path data
  | .ok _ => Run.fail (.artifactNotObject path)

end DelegateAudit

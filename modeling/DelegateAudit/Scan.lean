import DelegateAudit.Artifact
import DelegateAudit.Record
import DelegateAudit.Source

/-!
# DelegateAudit — scanning

A scan goes through the artifacts below a directory in order. Each is read, its code is
disassembled, and if the mode wants to know more, its ABI and its sources are looked at
and everything is summed up in a record.

No artifact can stop a scan: one that cannot be read, or in which something goes wrong, is
counted as failed and gets no record (`Scanner.scanFile` never ends with a fault).
-/

namespace DelegateAudit

/-- How artifacts are looked at. -/
structure Scanner where
  disassembler : Disassembler
  /-- The directory in which sources are looked for. -/
  sourceRoot : Text := "."
  rules : RuleTables := {}
  mode : Mode := .onlyDelegating

namespace Scanner

/-- The source matcher of a scanner. -/
def sources (s : Scanner) (tree : FileTree) : SourceMatcher :=
  ⟨tree, Path.ofText s.sourceRoot, s.rules.sources⟩

/-- Look at ABI and sources of an artifact and sum up, given the evidence in its code. -/
def correlate (s : Scanner) (tree : FileTree) (artifact : Artifact) (evidence : Evidence) :
    Run Record := do
  let surface ← Abi.analyze tree.limits s.rules.forwarder artifact.abi
  let sourceHit ← (s.sources tree).matchesSource artifact.primarySource
  let importHits ← (s.sources tree).importHits artifact.importedSources
  return {
    contractName := artifact.contractName
    primarySource := artifact.primarySource
    evidence, surface, sourceHit, importHits
    tier := classify evidence surface sourceHit importHits
    artifactPath := artifact.path }

/-- The record of an artifact, if the mode wants one. ABI and sources are not looked at when the
code alone decides that it does not. -/
def assess (s : Scanner) (tree : FileTree) (artifact : Artifact) : Run (Option Record) := do
  let evidence ← s.disassembler.evidence artifact.path artifact.runtime artifact.creation
  if !s.mode.wantsEvidence evidence then
    Run.log .debug ("skip(no delegatecall in stripped creation/runtime): " ++ artifact.path)
    pure none
  else
    let record ← s.correlate tree artifact evidence
    if s.mode.wantsTier record.tier then pure (some record)
    else
      Run.log .debug ("skip(strict mode): " ++ artifact.path ++ " risk=" ++ record.tier.name)
      pure none

/-- The record of the artifact in one file, if there is one, and the counts of this file. -/
def scanFile (s : Scanner) (tree : FileTree) (path : Text) : Run (Option Record × Summary) := do
  match ← (tree.readArtifact path).attempt with
  | .error fault =>
    Run.log .debug ("skip(unreadable artifact): " ++ fault.message)
    pure (none, { scanned := 1, failed := 1 })
  | .ok artifact =>
    if !artifact.isCandidate then
      Run.log .debug ("skip(no deployedBytecode): " ++ path)
      pure (none, { scanned := 1 })
    else
      match ← (s.assess tree artifact).attempt with
      | .error fault =>
        Run.log .warning ("Failed to assess " ++ path ++ ": " ++ fault.message)
        pure (none, { scanned := 1, withDeployed := 1, failed := 1 })
      | .ok none => pure (none, { scanned := 1, withDeployed := 1 })
      | .ok (some record) => pure (some record, { scanned := 1, withDeployed := 1, printed := 1 })

/-- Add the files at some paths to the findings; every record is handed on as soon as it is
known. -/
def scanFiles (s : Scanner) (tree : FileTree) (onRecord : Record → Run Unit) (found : Findings) :
    List Path → Run Findings
  | [] => pure found
  | path :: rest => do
    let (record, counts) ← s.scanFile tree path.toText
    Run.each onRecord record.toList
    let found := { found with
      records := found.records ++ record.toList
      summary := found.summary.merge counts }
    s.scanFiles tree onRecord found rest

/-- Scan the artifacts below a directory; every record is handed on as soon as it is known. -/
def scan (s : Scanner) (tree : FileTree) (root : Text) (onRecord : Record → Run Unit) :
    Run Findings := do
  let paths ← tree.artifacts root
  let found ← s.scanFiles tree onRecord { root, mode := s.mode } paths
  Run.log .info
    ("Scan completed: " ++ root ++ ", scanned=" ++ Text.ofInt found.summary.scanned ++
      ", with_deployed=" ++ Text.ofInt found.summary.withDeployed ++
      ", printed=" ++ Text.ofInt found.summary.printed)
  pure found

end Scanner
end DelegateAudit

import DelegateAudit.Risk

/-!
# DelegateAudit — what a scan finds

A record is what is known about one contract. A scan has a mode, which decides what is
worth a record, and ends with its records and a count of the artifacts it saw.
-/

namespace DelegateAudit

open Json

/-! ## Modes -/

/-- What is worth a record. -/
inductive Mode where
  /-- Every artifact with a place for running code. -/
  | all
  /-- Those with a DELEGATECALL outside the metadata tail. -/
  | onlyDelegating
  /-- Those whose DELEGATECALL is likely reachable. -/
  | strict
deriving DecidableEq, Repr

namespace Mode

/-- The name of a mode. -/
def name : Mode → Text
  | .all => "all"
  | .onlyDelegating => "only-deleg"
  | .strict => "strict"

/-- The mode of a name. -/
def ofName (name : Text) : Except Fault Mode :=
  match [all, onlyDelegating, strict].find? fun mode => mode.name = name with
  | some mode => .ok mode
  | none => .error (.unknownMode name)

/-- Is this code worth looking at any further? -/
def wantsEvidence (mode : Mode) (evidence : Evidence) : Bool :=
  mode = .all || evidence.hasStrippedHit

/-- Is a contract of this tier worth a record? -/
def wantsTier (mode : Mode) (tier : Tier) : Bool := mode ≠ .strict || tier = .likelyReachable

end Mode

/-! ## Records -/

/-- What is known about one contract. -/
structure Record where
  contractName : Text
  primarySource : Option Text
  evidence : Evidence
  surface : Abi.Surface
  /-- The main source has a DELEGATECALL pattern. -/
  sourceHit : Bool
  /-- The sources with a DELEGATECALL pattern. -/
  importHits : List Text
  tier : Tier
  artifactPath : Text
deriving DecidableEq, Repr

/-- The record as a JSON object. -/
def Record.toMembers (r : Record) : Members :=
  [("artifact_path", .str r.artifactPath),
   ("contract_name", .str r.contractName),
   ("primary_source_path", r.primarySource.elim .null .str),
   ("evidence", .obj r.evidence.toMembers),
   ("abi", .obj r.surface.toMembers),
   ("source_hit", .bool r.sourceHit),
   ("import_hits", .arr (r.importHits.map .str)),
   ("risk", .str r.tier.name)]

/-! ## Counts -/

/-- How many artifacts were seen. -/
structure Summary where
  scanned : Int := 0
  /-- Those with a place for running code. -/
  withDeployed : Int := 0
  /-- Those with a record. -/
  printed : Int := 0
  /-- Those that could not be read or looked into. -/
  failed : Int := 0
deriving DecidableEq, Repr

namespace Summary

/-- Counts add up. -/
def merge (s t : Summary) : Summary :=
  ⟨s.scanned + t.scanned, s.withDeployed + t.withDeployed, s.printed + t.printed,
    s.failed + t.failed⟩

/-- The counts as a JSON object. -/
def toMembers (s : Summary) : Members :=
  [("scanned", .int s.scanned), ("with_deployed", .int s.withDeployed),
   ("printed", .int s.printed), ("failed", .int s.failed)]

end Summary

/-- What a scan of a directory ends with. -/
structure Findings where
  /-- The directory as it was written. -/
  root : Text
  mode : Mode
  records : List Record := []
  summary : Summary := {}
deriving DecidableEq, Repr

/-- The findings as a JSON object. -/
def Findings.toMembers (f : Findings) : Members :=
  [("artifact_root", .str f.root),
   ("mode", .str f.mode.name),
   ("records", .arr (f.records.map fun r => .obj r.toMembers)),
   ("summary", .obj f.summary.toMembers)]

end DelegateAudit

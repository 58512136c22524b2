import DelegateAudit.Json.Writer
import DelegateAudit.Record

/-!
# DelegateAudit — reports

Findings are shown as a table of fixed columns or as JSON. A table is a list of texts,
one for every line; each part of it can be printed as soon as it is known. JSON is one
text, which cannot be written if a count has too many digits.
-/

namespace DelegateAudit.Report

/-- The names of the columns. -/
def columns : List Text :=
  ["RUNTIME_F4", "CREATION_F4", "META_ONLY", "ABI_FWD", "ABI_FALL", "SRC_DELEG", "RISK_HINT",
   "SOURCE_PATH", "CONTRACT"]

/-- The line below the names of the columns. -/
def rule : Text :=
  "---------- ---------- --------- ------ ------- -------- ---------- ---------- ----------------"

/-- What the columns mean. -/
def legend : List Text :=
  ["",
   "Legend:",
   "  RUNTIME_F4 : runtime contains a real DELEGATECALL (metadata stripped)",
   "  CREATION_F4: creation contains a DELEGATECALL (metadata stripped)",
   "  META_ONLY  : DELEGATECALL exists only in metadata tail (unreachable)",
   "  ABI_FWD    : ABI exposes forward/upgrader-like fn (attacker-steerable)",
   "  ABI_FALL   : ABI has fallback/receive",
   "  SRC_DELEG  : primary source contains delegatecall patterns",
   "  RISK_HINT  : LIKELY-REACHABLE > MEDIUM > LOW (combination of the above)"]

/-- A flag in the table. -/
def yesNo (b : Bool) : Text := if b then "yes" else "no"

/-- The cells of a record, each with the width of its column; the last column has none. -/
def cells (r : Record) : List (Text × Nat) :=
  [(yesNo r.evidence.runtimeStripped, 10),
   (yesNo r.evidence.creationStripped, 10),
   (yesNo r.evidence.metadataOnly, 9),
   (yesNo r.surface.hasForwarder, 6),
   (yesNo r.surface.hasFallback, 7),
   (yesNo r.sourceHit, 8),
   (r.tier.name, 16),
   (match r.primarySource with
    | none | some [] => "<unknown>"
    | some source => source, 10),
   (if r.contractName.isEmpty then "UNKNOWN" else r.contractName, 0)]

/-- The row of a record. -/
def row (r : Record) : Text :=
  Text.join " " ((cells r).map fun (cell, width) => cell.padRight width)

/-- The line about the sources with patterns, if there are any. -/
def importLine? (r : Record) : Option Text :=
  if r.importHits.isEmpty then none
  else some ("FROM_IMPORTS[" ++ Text.join "," r.importHits ++ "]")

/-- The lines above the records. -/
def header (root : Text) : List Text :=
  ["==> Scanning artifacts in: " ++ root, "", Text.join " " columns, rule]

/-- The lines of a record. -/
def recordLines (r : Record) : List Text := row r :: (importLine? r).toList

/-- The line with the counts. -/
def summaryLine (s : Summary) : Text :=
  "Summary: scanned=" ++ Text.ofInt s.scanned ++ " artifacts, with_deployed=" ++
    Text.ofInt s.withDeployed ++ ", printed=" ++ Text.ofInt s.printed

/-- The lines that stand in for records when there are none. If every artifact has a record, that
there are none says nothing about DELEGATECALL. -/
def noRecords (mode : Mode) (summary : Summary) : List Text :=
  if summary.printed = 0 && mode ≠ .all then ["", "No delegatecall found in creation/runtime."]
  else []

/-- The lines below the records. -/
def footer (mode : Mode) (summary : Summary) : List Text :=
  noRecords mode summary ++ [[], summaryLine summary] ++ legend

/-- The whole table. -/
def table (f : Findings) : List Text :=
  header f.root ++ f.records.flatMap recordLines ++ footer f.mode f.summary

/-- The findings as JSON text, if a count may have so many digits. -/
def json (limit : Option Nat) (f : Findings) : Except Fault Text :=
  match Json.render? limit (.obj f.toMembers) with
  | some text => .ok text
  | none => .error .tooManyDigits

end DelegateAudit.Report

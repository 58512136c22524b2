import DelegateAudit.Json.Writer
import DelegateAudit.Proofs.FilesBelow
import DelegateAudit.Proofs.Verdict

/-!
# DelegateAudit — the counts of a scan add up

A file leaves a scan through one of five exits (`Scanner.verdict_exit`): it cannot be read, it
has no place for running code, something goes wrong in it, the mode does not want it, or it
gets a record. Each exit changes other counts, and none of them can upset the balance
(`Summary.Balanced`).

Main results:

* `Scanner.Accounted.add` — what one more file does to the counts, hence
  `Scanner.Accounted.run` for any number of files.
* `Session.run_balanced` — the total over any sequence of scans stays balanced, whatever
  changes in between.
* `Scanner.scan_accounts` — all of it for a scan, and when there is a result at all.
* `Scanner.scan_overlong_root` — a root whose name is too long for a file system has none.
-/

namespace DelegateAudit

-- ---------------------------------------------------------------------------
-- Balance
-- ---------------------------------------------------------------------------

/-- Records come from artifacts with a place for running code, these from files, and no file both
gets a record and fails. -/
@[mk_iff]
structure Summary.Balanced (counts : Summary) : Prop where
  printed  : counts.printed ≤ counts.withDeployed
  deployed : counts.withDeployed ≤ counts.scanned
  failed   : counts.printed + counts.failed ≤ counts.scanned

theorem Summary.balanced_zero : Balanced {} := ⟨le_refl _, le_refl _, le_refl _⟩

theorem Summary.Balanced.merge {counts more : Summary} (h : counts.Balanced)
    (h' : more.Balanced) : (counts.merge more).Balanced := by
  obtain ⟨hprinted, hdeployed, hfailed⟩ := h
  obtain ⟨hprinted', hdeployed', hfailed'⟩ := h'
  unfold Summary.merge
  constructor
  · show counts.printed + more.printed ≤ counts.withDeployed + more.withDeployed
    omega
  · show counts.withDeployed + more.withDeployed ≤ counts.scanned + more.scanned
    omega
  · show counts.printed + more.printed + (counts.failed + more.failed) ≤
      counts.scanned + more.scanned
    omega

-- ---------------------------------------------------------------------------
-- The five exits of a file
-- ---------------------------------------------------------------------------

/-- The file holds an artifact, but one without a place for running code. -/
def FileTree.lacksCode (tree : FileTree) (path : Text) : Bool :=
  match (tree.readArtifact path).outcome with
  | .error _ => false
  | .ok artifact => !artifact.isCandidate

namespace Scanner

variable {s : Scanner} {tree : FileTree}

/-- How a file leaves a scan: the verdict on it, by the cause. -/
inductive Exit (s : Scanner) (tree : FileTree) (path : Text) : Option Record × Summary → Prop
  | unreadable (hcode : tree.lacksCode path = false) :
      Exit s tree path (none, { scanned := 1, failed := 1 })
  | noCandidate (hcode : tree.lacksCode path = true) : Exit s tree path (none, { scanned := 1 })
  | broken (hcode : tree.lacksCode path = false) :
      Exit s tree path (none, { scanned := 1, withDeployed := 1, failed := 1 })
  | unwanted (hcode : tree.lacksCode path = false) (hmode : s.mode ≠ .all) :
      Exit s tree path (none, { scanned := 1, withDeployed := 1 })
  | recorded (hcode : tree.lacksCode path = false) (record : Record) :
      Exit s tree path (some record, { scanned := 1, withDeployed := 1, printed := 1 })

/-- The most generous mode passes nothing over. -/
theorem assess_ne_none (hmode : s.mode = .all) (artifact : Artifact) :
    (s.assess tree artifact).outcome ≠ .ok none := by
  rw [outcome_assess, hmode]
  intro h
  obtain ⟨evidence, -, h⟩ := Run.except_bind_eq_ok.mp h
  rw [if_pos (show Mode.all.wantsEvidence evidence = true from rfl)] at h
  obtain ⟨record, -, h⟩ := Run.except_bind_eq_ok.mp h
  rw [if_pos (show Mode.all.wantsTier record.tier = true from rfl)] at h
  cases h

theorem verdict_exit (s : Scanner) (tree : FileTree) (path : Text) :
    Exit s tree path (s.verdict tree path) := by
  rw [verdict]
  cases hread : (tree.readArtifact path).outcome with
  | error fault => exact .unreadable (by rw [FileTree.lacksCode, hread])
  | ok artifact =>
    have hcode : tree.lacksCode path = !artifact.isCandidate := by rw [FileTree.lacksCode, hread]
    simp only
    cases hcandidate : artifact.isCandidate with
    | false =>
      rw [hcandidate] at hcode
      exact .noCandidate hcode
    | true =>
      rw [hcandidate] at hcode
      rw [if_pos rfl]
      rcases hassess : (s.assess tree artifact).outcome with fault | _ | record
      · exact .broken hcode
      · exact .unwanted hcode fun hmode => assess_ne_none hmode artifact hassess
      · exact .recorded hcode record

/-- What every exit does to the counts. -/
theorem Exit.counts {path : Text} {verdict : Option Record × Summary}
    (h : Exit s tree path verdict) :
    verdict.2.scanned = 1 ∧ verdict.2.printed = verdict.1.toList.length ∧ verdict.2.Balanced ∧
      (s.mode = .all → verdict.2.scanned = verdict.2.printed + verdict.2.failed +
        if tree.lacksCode path then 1 else 0) := by
  cases h with
  | unreadable hcode => simp [hcode, Summary.balanced_iff]
  | noCandidate hcode => simp [hcode, Summary.balanced_iff]
  | broken hcode => simp [hcode, Summary.balanced_iff]
  | unwanted hcode hmode => simp [hmode, Summary.balanced_iff]
  | recorded hcode record => simp [hcode, Summary.balanced_iff]

-- ---------------------------------------------------------------------------
-- Any number of files
-- ---------------------------------------------------------------------------

/-- The findings after the files at some paths. -/
structure Accounted (s : Scanner) (tree : FileTree) (paths : List Path) (found : Findings) :
    Prop where
  scanned  : found.summary.scanned = paths.length
  printed  : found.summary.printed = found.records.length
  balanced : found.summary.Balanced
  /-- In the most generous mode a file has a record, has failed or has no place for code. -/
  complete : s.mode = .all → found.summary.scanned =
    found.summary.printed + found.summary.failed +
      paths.countP fun path => tree.lacksCode path.toText

theorem Accounted.none (s : Scanner) (tree : FileTree) (root : Text) :
    Accounted s tree [] { root, mode := s.mode } :=
  ⟨rfl, rfl, Summary.balanced_zero, fun _ => rfl⟩

/-- What one more file does to the counts. -/
theorem Accounted.add {paths : List Path} {found : Findings} (h : Accounted s tree paths found)
    (path : Path) :
    Accounted s tree (paths ++ [path]) (found.add (s.verdict tree path.toText)) := by
  obtain ⟨hone, hrecord, hbalanced, hexit⟩ := (verdict_exit s tree path.toText).counts
  generalize s.verdict tree path.toText = verdict at *
  constructor
  · show found.summary.scanned + verdict.2.scanned = _
    rw [h.scanned, hone, List.length_append, Nat.cast_add]
    rfl
  · show found.summary.printed + verdict.2.printed = (found.records ++ verdict.1.toList).length
    rw [h.printed, hrecord, List.length_append, Nat.cast_add]
  · exact h.balanced.merge hbalanced
  · intro hmode
    show found.summary.scanned + verdict.2.scanned = found.summary.printed + verdict.2.printed +
      (found.summary.failed + verdict.2.failed) + _
    have hold := h.complete hmode
    have hnew := hexit hmode
    rw [List.countP_append, List.countP_singleton, Nat.cast_add]
    cases hcode : tree.lacksCode path.toText with
    | true =>
      rw [hcode] at hnew
      simp only [if_true, Nat.cast_one] at hnew ⊢
      omega
    | false =>
      rw [hcode] at hnew
      simp only [Bool.false_eq_true, if_false, Nat.cast_zero] at hnew ⊢
      omega

/-- What one file does, any number of files do. -/
theorem Accounted.run {done : List Path} {found : Findings} (h : Accounted s tree done found)
    (paths : List Path) :
    Accounted s tree (done ++ paths)
      (paths.foldl (fun found path => found.add (s.verdict tree path.toText)) found) := by
  induction paths generalizing done found with
  | nil =>
    rw [List.append_nil]
    exact h
  | cons path rest ih =>
    have hrest := ih (h.add path)
    rw [List.append_assoc] at hrest
    exact hrest

/-- A scan that ends with findings has gone through all files, however records are handed on. -/
theorem scanFiles_eq_ok {onRecord : Record → Run Unit} {found result : Findings}
    {paths : List Path} (h : (s.scanFiles tree onRecord found paths).outcome = .ok result) :
    result = paths.foldl (fun found path => found.add (s.verdict tree path.toText)) found := by
  induction paths generalizing found with
  | nil => exact (Except.ok.inj h).symm
  | cons path rest ih =>
    rw [scanFiles, Run.outcome_bind_of_ok (outcome_scanFile s tree path.toText)] at h
    obtain ⟨_, -, h⟩ := Run.outcome_bind_eq_ok.mp h
    exact ih h

theorem scan_eq_ok {onRecord : Record → Run Unit} {root : Text} {found : Findings}
    (h : (s.scan tree root onRecord).outcome = .ok found) :
    ∃ paths, (tree.artifacts root).outcome = .ok paths ∧
      found = paths.foldl (fun found path => found.add (s.verdict tree path.toText))
        { root, mode := s.mode } := by
  obtain ⟨paths, hpaths, h⟩ := Run.outcome_bind_eq_ok.mp h
  obtain ⟨result, hresult, h⟩ := Run.outcome_bind_eq_ok.mp h
  -- the log entry at the end adds nothing
  cases h
  exact ⟨paths, hpaths, scanFiles_eq_ok hresult⟩

theorem accounted_of_scan {onRecord : Record → Run Unit} {root : Text} {found : Findings}
    (h : (s.scan tree root onRecord).outcome = .ok found) :
    ∃ paths, (tree.artifacts root).outcome = .ok paths ∧ Accounted s tree paths found := by
  obtain ⟨paths, hpaths, rfl⟩ := scan_eq_ok h
  exact ⟨paths, hpaths, (Accounted.none s tree root).run paths⟩

end Scanner

-- ---------------------------------------------------------------------------
-- Sessions
-- ---------------------------------------------------------------------------

/-- Scans one after another: the scanner and the files as they are now, and the counts of all scans
so far. -/
structure Session where
  scanner : Scanner
  tree : FileTree
  total : Summary := {}

/-- What can happen in a session. -/
inductive Session.Act where
  /-- Other files, another mode, other rules or another disassembler. -/
  | change (scanner : Scanner) (tree : FileTree)
  | scan (root : Text) (onRecord : Record → Run Unit)
  | scanFile (path : Text)

namespace Session

/-- One act of a session. A scan that ends with a fault leaves no counts. -/
def step (session : Session) : Act → Session
  | .change scanner tree => { session with scanner, tree }
  | .scan root onRecord =>
    match (session.scanner.scan session.tree root onRecord).outcome with
    | .error _ => session
    | .ok found => { session with total := session.total.merge found.summary }
  | .scanFile path =>
    match (session.scanner.scanFile session.tree path).outcome with
    | .error _ => session
    | .ok (_, counts) => { session with total := session.total.merge counts }

def run (session : Session) (acts : List Act) : Session := acts.foldl step session

theorem step_balanced {session : Session} (h : session.total.Balanced) (act : Act) :
    (session.step act).total.Balanced := by
  cases act with
  | change scanner tree => exact h
  | scan root onRecord =>
    rw [step]
    cases hscan : (session.scanner.scan session.tree root onRecord).outcome with
    | error fault => exact h
    | ok found =>
      obtain ⟨paths, -, haccounted⟩ := Scanner.accounted_of_scan hscan
      exact h.merge haccounted.balanced
  | scanFile path =>
    have hexit := (Scanner.verdict_exit session.scanner session.tree path).counts
    rw [step, Scanner.outcome_scanFile]
    exact h.merge hexit.2.2.1

theorem run_balanced {session : Session} (h : session.total.Balanced) (acts : List Act) :
    (session.run acts).total.Balanced := by
  unfold run
  induction acts generalizing session with
  | nil => exact h
  | cons act rest ih => exact ih (step_balanced h act)

end Session

-- ---------------------------------------------------------------------------
-- Scans
-- ---------------------------------------------------------------------------

namespace Scanner

/-- The list of the artifacts is all that can go wrong in a scan. -/
theorem scan_eq_error_iff {s : Scanner} {tree : FileTree} {root : Text}
    {onRecord : Record → Run Unit} (quiet : ∀ record, (onRecord record).outcome = .ok ())
    {fault : Fault} :
    (s.scan tree root onRecord).outcome = .error fault ↔
      (tree.artifacts root).outcome = .error fault := by
  rw [outcome_scan quiet]
  cases (tree.artifacts root).outcome <;> simp [Except.map]

/-- A scan has findings exactly if the artifacts can be listed. -/
theorem exists_scan_iff {s : Scanner} {tree : FileTree} {root : Text}
    {onRecord : Record → Run Unit} (quiet : ∀ record, (onRecord record).outcome = .ok ()) :
    (∃ found, (s.scan tree root onRecord).outcome = .ok found) ↔
      ∀ fault, ¬ tree.Unlistable root fault := by
  rw [outcome_scan quiet, ← FileTree.exists_artifacts_iff]
  cases (tree.artifacts root).outcome <;> simp [Except.map]

/-- **The counts of a scan.** A scan ends with findings exactly if the artifacts can be listed: the
root and what the search looks at below it have paths that are not too long, and no directory lies
too deep; what it ends with otherwise is one of these reasons. The findings count every file that
was found, and every record; their counts are balanced, and in the most generous mode complete. The
total of a session that starts from nothing is balanced, too. -/
theorem scan_accounts (s : Scanner) (tree : FileTree) (root : Text) (onRecord : Record → Run Unit)
    (quiet : ∀ record, (onRecord record).outcome = .ok ()) :
    ((∃ found, (s.scan tree root onRecord).outcome = .ok found) ↔
        ∀ fault, ¬ tree.Unlistable root fault) ∧
      (∀ fault, (s.scan tree root onRecord).outcome = .error fault →
        tree.Unlistable root fault) ∧
      (∀ found, (s.scan tree root onRecord).outcome = .ok found →
        ∃ paths, (tree.artifacts root).outcome = .ok paths ∧ Accounted s tree paths found) ∧
      ∀ (scanner : Scanner) (files : FileTree) (acts : List Session.Act),
        (Session.run ⟨scanner, files, {}⟩ acts).total.Balanced := by
  refine ⟨exists_scan_iff quiet, fun fault hfault => ?_, fun found => accounted_of_scan,
    fun scanner files acts => ?_⟩
  · exact FileTree.unlistable_of_artifacts ((scan_eq_error_iff quiet).mp hfault)
  · exact Session.run_balanced Summary.balanced_zero acts

/-- Three files: one that is no JSON, one without a place for code, and a contract. -/
def mixedTree : FileTree :=
  { entries := [("out", .dir [("a.json", .ofText "not JSON"), ("b.json", .ofText "\x7b\x7d"),
    ("c.json", .ofText (Json.render (.obj [("deployedBytecode", .str "0x6000")])))])] }

def generousScanner : Scanner := { disassembler := byteDisassembler, mode := .all }

theorem scan_accounts_mixed :
    ∃ found paths, (generousScanner.scan mixedTree "out" fun _ => pure ()).outcome = .ok found ∧
      found.summary = ⟨3, 1, 1, 1⟩ ∧ (mixedTree.artifacts "out").outcome = .ok paths ∧
      Accounted generousScanner mixedTree paths found := by
  have hpaths : (mixedTree.artifacts "out").outcome =
      .ok (["out/a.json", "out/b.json", "out/c.json"].map fun t => Path.ofText (Text.ofString t)) :=
    FileTree.outcome_artifacts_of_sorted rfl (by decide +kernel) (by decide) (by decide)
  have hscan : (generousScanner.scan mixedTree "out" fun _ => pure ()).outcome = _ :=
    outcome_scan (fun _ => rfl) generousScanner mixedTree "out"
  rw [hpaths] at hscan
  have haccounts := (scan_accounts generousScanner mixedTree "out" (fun _ => pure ())
    fun _ => rfl).2.2.1
  obtain ⟨paths, hsame, haccounted⟩ := haccounts _ hscan
  exact ⟨_, paths, hscan, by decide +kernel, hsame, haccounted⟩

/-- A name with one letter more than a file system allows. -/
def overlongName : Text := List.replicate 256 (.scalar 'r')

/-- Nothing can be there, and still there is no result. -/
theorem scan_overlong_root :
    (generousScanner.scan { entries := [] } overlongName fun _ => pure ()).outcome =
      .error (.system ⟨.nameTooLong, overlongName⟩) := by
  decide +kernel

end Scanner
end DelegateAudit

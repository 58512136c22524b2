import DelegateAudit.Report
import DelegateAudit.Proofs.Accounting
import DelegateAudit.Proofs.StrictScan

/-!
# DelegateAudit — what it means that nothing was found

When a scan has no record to show, its table ends with the line that no delegatecall was found.
The line knows only the number of records and the mode. An artifact without a record has been
passed over by one of the two filters of the mode, or something went wrong in it; so what the
line says about the code depends on which filters there are:

* in the middle mode the only filter asks for a hit, and the line says that there is none;
* in the strict mode the second filter also drops artifacts with a hit, and the line says no more
  than that none of them is likely reachable.

Main results:

* `Scanner.isSome_assess_iff` — who gets a record, by mode and without the analysis.
* `Scanner.nothingFound_iff` — what the line means, in each mode.
* `Scanner.nothingFound_delegating` — the line stands below a strict scan although there is a
  DELEGATECALL.
-/

namespace DelegateAudit

/-- The line that stands in for records. -/
def Report.nothingFound : Text := "No delegatecall found in creation/runtime."

theorem Report.nothingFound_mem_footer_iff {mode : Mode} {summary : Summary} :
    nothingFound ∈ footer mode summary ↔ summary.printed = 0 ∧ mode ≠ .all := by
  have hlegend : nothingFound ∉ legend := by decide +kernel
  -- the line with the counts starts with another letter
  have hsummary : nothingFound ≠ summaryLine summary := by
    intro h
    have hhead := congrArg List.head? h
    cases hhead
  have hrest : nothingFound ∉ ([[], summaryLine summary] : List Text) := by
    intro h
    rcases List.mem_pair.mp h with h | h
    · cases h
    · exact hsummary h
  unfold footer
  rw [List.mem_append, List.mem_append, or_iff_left hlegend, or_iff_left hrest]
  unfold noRecords
  split
  · next hnone =>
    have hboth : summary.printed = 0 ∧ mode ≠ .all := by simpa using hnone
    exact iff_of_true (List.mem_cons_of_mem _ (List.mem_singleton_self _)) hboth
  · next hsome => exact iff_of_false List.not_mem_nil (by simpa using hsome)

-- ---------------------------------------------------------------------------
-- Who gets a record
-- ---------------------------------------------------------------------------

/-- What stands before the tail of this code was disassembled to lines with a DELEGATECALL. -/
def Disassembler.HitsBeforeTail (d : Disassembler) (text : Option Text) : Prop :=
  ∃ lines, d.Lists (Bytecode.ofText text).stripped lines ∧ Listing.hasHit lines = true

/-- One of the two codes has a hit before its tail. -/
def Artifact.Delegates (artifact : Artifact) (d : Disassembler) : Prop :=
  d.HitsBeforeTail artifact.runtime ∨ d.HitsBeforeTail artifact.creation

/-- Running code has a hit before its tail, there is a way in, and a source confirms it. -/
structure Artifact.LikelyReachable (artifact : Artifact) (d : Disassembler) (rules : RuleTables)
    (sources : SourceMatcher) : Prop where
  runs      : d.HitsBeforeTail artifact.runtime
  wayIn     : ∃ entry ∈ artifact.abi,
                Abi.IsFallbackEntry entry ∨ Abi.IsForwarderEntry rules.forwarder entry
  confirmed : artifact.Confirmed sources

theorem Disassembler.hits_of_evidence {d : Disassembler} {path : Text}
    {runtime creation : Option Text} {e : Evidence}
    (h : (d.evidence path runtime creation).outcome = .ok e) :
    (e.runtimeStripped = true ↔ d.HitsBeforeTail runtime) ∧
      (e.creationStripped = true ↔ d.HitsBeforeTail creation) := by
  obtain ⟨hruntime, -, hcreation, -⟩ := evidence_eq_ok_iff.mp h
  unfold HitsBeforeTail
  rw [← findsHit_eq_true_iff, ← findsHit_eq_true_iff, hruntime, hcreation]
  simp

namespace Scanner

variable {s : Scanner} {tree : FileTree} {artifact : Artifact}

/-- What a scanner wants to see in an artifact. -/
def Wants (s : Scanner) (tree : FileTree) (artifact : Artifact) : Prop :=
  match s.mode with
  | .all => True
  | .onlyDelegating => artifact.Delegates s.disassembler
  | .strict => artifact.LikelyReachable s.disassembler s.rules (s.sources tree)

/-- An artifact in which nothing goes wrong gets a record exactly if it has what is wanted. -/
theorem isSome_assess_iff {found : Option Record}
    (h : (s.assess tree artifact).outcome = .ok found) :
    found.isSome = true ↔ s.Wants tree artifact := by
  rw [outcome_assess] at h
  obtain ⟨e, hevidence, h⟩ := Run.except_bind_eq_ok.mp h
  obtain ⟨hruns, hcreates⟩ := Disassembler.hits_of_evidence hevidence
  have hhit : e.hasStrippedHit = true ↔ artifact.Delegates s.disassembler := by
    unfold Evidence.hasStrippedHit Artifact.Delegates
    rw [Bool.or_eq_true, hruns, hcreates]
  unfold Wants
  by_cases hwants : s.mode.wantsEvidence e = true
  · rw [if_pos hwants] at h
    obtain ⟨record, hcorrelate, h⟩ := Run.except_bind_eq_ok.mp h
    obtain ⟨surface, sourceHit, importHits, habi, hmain, himports, rfl⟩ :=
      correlate_eq_ok_iff.mp hcorrelate
    cases h
    cases hmode : s.mode with
    | all => exact iff_of_true rfl trivial
    | onlyDelegating =>
      rw [hmode] at hwants
      exact iff_of_true rfl (hhit.mp hwants)
    | strict =>
      -- the tier is the last word, and it is made of the three signs
      have htier : classify e surface sourceHit importHits = .likelyReachable ↔
          artifact.LikelyReachable s.disassembler s.rules (s.sources tree) := by
        rw [classify_eq_likelyReachable_iff, hruns, wayIn_iff habi, confirmed_iff hmain himports]
        constructor
        · rintro ⟨hcode, hway, hsource⟩
          exact ⟨hcode, hway, hsource⟩
        · rintro ⟨hcode, hway, hsource⟩
          exact ⟨hcode, hway, hsource⟩
      simp only
      rw [← htier]
      by_cases hlikely : classify e surface sourceHit importHits = .likelyReachable
      · simp [Mode.wantsTier, hlikely]
      · simp [Mode.wantsTier, hlikely]
  · rw [if_neg hwants] at h
    cases h
    -- the first filter stopped it, so there is a mode that has one, and no hit
    cases hmode : s.mode with
    | all =>
      rw [hmode] at hwants
      exact absurd rfl hwants
    | onlyDelegating =>
      rw [hmode] at hwants
      exact iff_of_false Bool.false_ne_true fun hdelegates => hwants (hhit.mpr hdelegates)
    | strict =>
      rw [hmode] at hwants
      refine iff_of_false Bool.false_ne_true fun hlikely => hwants ?_
      exact hhit.mpr (.inl hlikely.runs)

-- ---------------------------------------------------------------------------
-- Scans without a failure
-- ---------------------------------------------------------------------------

/-- Something went wrong with the file. -/
def fails (s : Scanner) (tree : FileTree) (path : Text) : Bool :=
  (s.verdict tree path).2.failed ≠ 0

theorem failed_foldl (paths : List Path) (found : Findings) :
    (paths.foldl (fun found path => found.add (s.verdict tree path.toText)) found).summary.failed =
      found.summary.failed + paths.countP fun path => s.fails tree path.toText := by
  induction paths generalizing found with
  | nil => simp
  | cons path rest ih =>
    -- a file adds nothing or one
    have hone : (s.verdict tree path.toText).2.failed =
        if s.fails tree path.toText then 1 else 0 := by
      have hexit := verdict_exit s tree path.toText
      unfold fails
      generalize s.verdict tree path.toText = verdict at hexit
      cases hexit <;> rfl
    have hadd : (found.add (s.verdict tree path.toText)).summary.failed =
        found.summary.failed + (s.verdict tree path.toText).2.failed := rfl
    rw [List.foldl_cons, ih, hadd, hone, List.countP_cons]
    split <;> push_cast <;> omega

/-- A file that does not fail and holds an artifact with a place for running code was assessed to
the end. -/
theorem assess_of_not_fails {path : Text} (hread : (tree.readArtifact path).outcome = .ok artifact)
    (hcandidate : artifact.isCandidate = true) (hfine : s.fails tree path = false) :
    (s.assess tree artifact).outcome = .ok (s.verdict tree path).1 := by
  have hverdict : s.verdict tree path = judge (s.assess tree artifact).outcome := by
    unfold verdict
    simp only [hread, hcandidate, if_true]
  unfold fails at hfine
  rw [hverdict] at hfine ⊢
  generalize (s.assess tree artifact).outcome = outcome at hfine
  rcases outcome with fault | _ | record
  · cases hfine
  · rfl
  · rfl

end Scanner

/-- The artifact stands in a file below the root and has a place for running code. -/
structure FileTree.CandidateBelow (tree : FileTree) (root path : Text) (artifact : Artifact) :
    Prop where
  below     : tree.JsonFileBelow root path
  read      : (tree.readArtifact path).outcome = .ok artifact
  candidate : artifact.isCandidate = true

namespace Scanner

variable {s : Scanner} {tree : FileTree} {root : Text} {onRecord : Record → Run Unit}
  {found : Findings}

theorem mode_of_scan (h : (s.scan tree root onRecord).outcome = .ok found) :
    found.mode = s.mode := by
  obtain ⟨paths, -, rfl⟩ := scan_eq_ok h
  clear h
  generalize hstart : ({ root, mode := s.mode } : Findings) = start
  have hmode : start.mode = s.mode := by rw [← hstart]
  clear hstart
  induction paths generalizing start with
  | nil => exact hmode
  | cons path rest ih => exact ih _ hmode

/-- If nothing fails, there is no record exactly if no artifact has what is wanted. -/
theorem printed_eq_zero_iff (h : (s.scan tree root onRecord).outcome = .ok found)
    (hfailed : found.summary.failed = 0) :
    found.summary.printed = 0 ↔
      ∀ path artifact, tree.CandidateBelow root path artifact → ¬ s.Wants tree artifact := by
  obtain ⟨paths, hpaths, rfl⟩ := scan_eq_ok h
  have haccounted := (Accounted.none s tree root).run paths
  rw [List.nil_append] at haccounted
  have hfine : ∀ p ∈ paths, s.fails tree p.toText = false := by
    rw [failed_foldl] at hfailed
    have hcount : paths.countP (fun path => s.fails tree path.toText) = 0 := by
      have hzero : ({ root, mode := s.mode } : Findings).summary.failed = 0 := rfl
      omega
    intro p hp
    exact Bool.eq_false_iff.mpr (List.countP_eq_zero.mp hcount p hp)
  rw [haccounted.printed, Nat.cast_eq_zero, List.length_eq_zero_iff,
    Findings.records_foldl_add fun path => s.verdict tree path.toText]
  show [] ++ _ = [] ↔ _
  rw [List.nil_append, List.flatMap_eq_nil_iff]
  constructor
  · rintro hnone path artifact ⟨hbelow, hread, hcandidate⟩ hwants
    have hlistable := FileTree.exists_artifacts_iff.mp ⟨paths, hpaths⟩
    obtain ⟨_, hsame, p, hp, rfl⟩ := FileTree.mem_artifacts_iff.mpr ⟨hlistable, hbelow⟩
    cases hsame.symm.trans hpaths
    have hassess := assess_of_not_fails hread hcandidate (hfine p hp)
    have hsome := (isSome_assess_iff hassess).mpr hwants
    rw [Option.toList_eq_nil_iff.mp (hnone p hp)] at hsome
    cases hsome
  · intro hunwanted p hp
    rw [Option.toList_eq_nil_iff]
    cases hrecord : (s.verdict tree p.toText).1 with
    | none => rfl
    | some record =>
      -- a record comes from an artifact that has what is wanted
      obtain ⟨artifact, hread, hcandidate, hassess⟩ := verdict_eq_some_iff.mp hrecord
      obtain ⟨-, hbelow⟩ := FileTree.mem_artifacts_iff.mp ⟨paths, hpaths, p, hp, rfl⟩
      have hwants := (isSome_assess_iff hassess).mp rfl
      exact absurd hwants (hunwanted p.toText artifact ⟨hbelow, hread, hcandidate⟩)

/-- **What it means that nothing was found.** Below a scan in which nothing failed, the line says
in the middle mode that no artifact has a DELEGATECALL before the tail of one of its codes, and in
the strict mode that no artifact is likely reachable; in both it is there whenever this is so. In
the most generous mode it is never there. -/
theorem nothingFound_iff (s : Scanner) (tree : FileTree) (root : Text)
    (onRecord : Record → Run Unit) (found : Findings)
    (h : (s.scan tree root onRecord).outcome = .ok found) (hfailed : found.summary.failed = 0) :
    Report.nothingFound ∈ Report.footer found.mode found.summary ↔
      match s.mode with
      | .all => False
      | .onlyDelegating => ∀ path artifact, tree.CandidateBelow root path artifact →
          ¬ artifact.Delegates s.disassembler
      | .strict => ∀ path artifact, tree.CandidateBelow root path artifact →
          ¬ artifact.LikelyReachable s.disassembler s.rules (s.sources tree) := by
  rw [Report.nothingFound_mem_footer_iff, printed_eq_zero_iff h hfailed, mode_of_scan h]
  unfold Wants
  cases s.mode with
  | all => exact iff_of_false (fun hall => hall.2 rfl) id
  | onlyDelegating => exact and_iff_left (by decide)
  | strict => exact and_iff_left (by decide)

/-- One contract, with this running code. -/
def loneTree (code : Text) : FileTree :=
  { entries := [("out", .dir [("A.json", .ofText (Json.render (.obj
    [("deployedBytecode", .str code)])))])] }

def loneArtifact (code : Text) : Artifact where
  path := "out/A.json"
  contractName := "UNKNOWN"
  runtime := some code
  creation := none
  abi := []
  primarySource := none
  importedSources := []

/-- A contract without a DELEGATECALL in it, in the middle mode. -/
theorem nothingFound_iff_clean :
    Report.nothingFound ∈ Report.footer .onlyDelegating ⟨1, 1, 0, 0⟩ ∧
      ∀ path artifact, (loneTree "0x6000").CandidateBelow "out" path artifact →
        ¬ artifact.Delegates byteDisassembler := by
  have hscan : (({ disassembler := byteDisassembler, mode := .onlyDelegating } : Scanner).scan
      (loneTree "0x6000") "out" fun _ => pure ()).outcome =
        .ok ⟨"out", .onlyDelegating, [], ⟨1, 1, 0, 0⟩⟩ := by decide +kernel
  have hline : Report.nothingFound ∈ Report.footer .onlyDelegating ⟨1, 1, 0, 0⟩ := by
    decide +kernel
  exact ⟨hline, (nothingFound_iff { disassembler := byteDisassembler, mode := .onlyDelegating }
    (loneTree "0x6000") "out" (fun _ => pure ()) _ hscan rfl).mp hline⟩

/-- A contract with a DELEGATECALL in its running code, but no way in. Nothing fails in the strict
scan, and the line stands below it. -/
theorem nothingFound_delegating :
    ((strictByByte "src" {}).scan (loneTree "0x60f4") "out" fun _ => pure ()).outcome =
        .ok ⟨"out", .strict, [], ⟨1, 1, 0, 0⟩⟩ ∧
      Report.nothingFound ∈ Report.footer .strict ⟨1, 1, 0, 0⟩ ∧
      (loneTree "0x60f4").CandidateBelow "out" "out/A.json" (loneArtifact "0x60f4") ∧
      (loneArtifact "0x60f4").Delegates (strictByByte "src" {}).disassembler := by
  refine ⟨by decide +kernel, by decide +kernel, ⟨?_, ?_, by decide⟩, ?_⟩
  · exact ⟨_, [], "A.json", rfl, .file List.mem_cons_self, by decide, by decide⟩
  · exact FileTree.readArtifact_eq_ok_iff.mpr
      ⟨[("deployedBytecode", .str "0x60f4")], by with_unfolding_all rfl, rfl⟩
  · exact .inl ⟨_, ⟨by decide, [0x60, 0xf4], by decide, rfl⟩, by decide⟩

end Scanner
end DelegateAudit

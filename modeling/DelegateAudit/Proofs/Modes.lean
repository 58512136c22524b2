import DelegateAudit.Json.Writer
import DelegateAudit.Proofs.FilesBelow
import DelegateAudit.Proofs.Verdict

/-!
# DelegateAudit — how the three modes compare

A mode decides twice about an artifact: on its code alone, before ABI and sources are looked
at, and on its tier, when everything is known. So a stricter mode never sees more, but an
artifact that fails in one mode may be passed over in a stricter one, before whatever makes
it fail is looked at.

Main results:

* `Scanner.verdict_refines` — the comparison for one file, through every way in which it
  can drop out.
* `Scanner.scan_refines` — the comparison for whole scans: stricter modes give
  sublists of the same records, in order, and the counts compare accordingly.
-/

namespace DelegateAudit

/-- Records and counts of the three modes, from the most generous one to the strictest. -/
structure ModesRefine (all only strict : List Record × Summary) : Prop where
  onlyRecords   : only.1 = all.1.filter fun record => record.evidence.hasStrippedHit
  strictRecords : strict.1 = only.1.filter fun record => record.tier = .likelyReachable
  scanned       : strict.2.scanned = only.2.scanned ∧ only.2.scanned = all.2.scanned
  withDeployed  : strict.2.withDeployed = only.2.withDeployed ∧
                    only.2.withDeployed = all.2.withDeployed
  printed       : strict.2.printed ≤ only.2.printed ∧ only.2.printed ≤ all.2.printed
  failed        : strict.2.failed = only.2.failed ∧ only.2.failed ≤ all.2.failed

namespace ModesRefine

/-- Without records, equal counts compare as they should. -/
theorem ofCounts (counts : Summary) : ModesRefine ([], counts) ([], counts) ([], counts) :=
  ⟨rfl, rfl, ⟨rfl, rfl⟩, ⟨rfl, rfl⟩, ⟨le_refl _, le_refl _⟩, ⟨rfl, le_refl _⟩⟩

/-- The comparison survives adding up. -/
theorem merge {all only strict all' only' strict' : List Record × Summary}
    (h : ModesRefine all only strict) (h' : ModesRefine all' only' strict') :
    ModesRefine (all.1 ++ all'.1, all.2.merge all'.2) (only.1 ++ only'.1, only.2.merge only'.2)
      (strict.1 ++ strict'.1, strict.2.merge strict'.2) where
  onlyRecords := by rw [List.filter_append, ← h.onlyRecords, ← h'.onlyRecords]
  strictRecords := by rw [List.filter_append, ← h.strictRecords, ← h'.strictRecords]
  scanned := by
    have := h.scanned
    have := h'.scanned
    constructor <;> simp only [Summary.merge] <;> omega
  withDeployed := by
    have := h.withDeployed
    have := h'.withDeployed
    constructor <;> simp only [Summary.merge] <;> omega
  printed := by
    have := h.printed
    have := h'.printed
    constructor <;> simp only [Summary.merge] <;> omega
  failed := by
    have := h.failed
    have := h'.failed
    constructor <;> simp only [Summary.merge] <;> omega

end ModesRefine

namespace Scanner

/-! ## One file -/

/-- A verdict as records and counts. -/
def tally (verdict : Option Record × Summary) : List Record × Summary :=
  (verdict.1.toList, verdict.2)

theorem correlate_evidence {s : Scanner} {tree : FileTree} {artifact : Artifact}
    {evidence : Evidence} {record : Record}
    (h : (s.correlate tree artifact evidence).outcome = .ok record) :
    record.evidence = evidence := by
  obtain ⟨surface, sourceHit, importHits, -, -, -, rfl⟩ := correlate_eq_ok_iff.mp h
  rfl

/-- The mode plays no part in what is said about an artifact, only in whether it is said. -/
theorem outcome_assess_in (s : Scanner) (mode : Mode) (tree : FileTree) (artifact : Artifact) :
    (({ s with mode } : Scanner).assess tree artifact).outcome =
      (do
        let evidence ←
          (s.disassembler.evidence artifact.path artifact.runtime artifact.creation).outcome
        if mode.wantsEvidence evidence then
          let record ← (s.correlate tree artifact evidence).outcome
          pure (if mode.wantsTier record.tier then some record else none)
        else pure none) :=
  outcome_assess { s with mode } tree artifact

/-- What goes wrong after the evidence goes wrong in the most generous mode only. -/
theorem refines_of_late_fault (fault : Fault) :
    ModesRefine (tally (judge (.error fault))) (tally (judge (.ok none)))
      (tally (judge (.ok none))) := by
  refine ⟨rfl, rfl, ⟨rfl, rfl⟩, ⟨rfl, rfl⟩, ⟨le_refl _, le_refl _⟩, ⟨rfl, ?_⟩⟩
  show (0 : Int) ≤ 1
  decide

/-- A record without a hit is one of the most generous mode only. -/
theorem refines_of_no_hit {record : Record} (h : record.evidence.hasStrippedHit = false) :
    ModesRefine (tally (judge (.ok (some record)))) (tally (judge (.ok none)))
      (tally (judge (.ok none))) := by
  refine ⟨?_, rfl, ⟨rfl, rfl⟩, ⟨rfl, rfl⟩, ⟨le_refl _, ?_⟩, ⟨rfl, le_refl _⟩⟩
  · show [] = [record].filter _
    rw [List.filter_singleton, h]
    rfl
  · show (0 : Int) ≤ 1
    decide

/-- A record with a hit is one of the two generous modes, and of the strict one by its tier. -/
theorem refines_of_hit {record : Record} (h : record.evidence.hasStrippedHit = true) :
    ModesRefine (tally (judge (.ok (some record)))) (tally (judge (.ok (some record))))
      (tally (judge (.ok (if Mode.strict.wantsTier record.tier then some record else none)))) := by
  have honly : [record] = [record].filter fun record => record.evidence.hasStrippedHit := by
    rw [List.filter_singleton, h]
    rfl
  by_cases htier : record.tier = .likelyReachable
  · rw [if_pos (show Mode.strict.wantsTier record.tier = true by rw [htier]; rfl)]
    refine ⟨honly, ?_, ⟨rfl, rfl⟩, ⟨rfl, rfl⟩, ⟨le_refl _, le_refl _⟩, ⟨rfl, le_refl _⟩⟩
    show [record] = [record].filter _
    rw [List.filter_singleton, htier]
    rfl
  · rw [if_neg (show ¬ Mode.strict.wantsTier record.tier = true by simp [Mode.wantsTier, htier])]
    refine ⟨honly, ?_, ⟨rfl, rfl⟩, ⟨rfl, rfl⟩, ⟨?_, le_refl _⟩, ⟨rfl, le_refl _⟩⟩
    · show [] = [record].filter _
      rw [List.filter_singleton, decide_eq_false htier]
      rfl
    · show (0 : Int) ≤ 1
      decide

/-- The comparison for an artifact. -/
theorem judge_refines (s : Scanner) (tree : FileTree) (artifact : Artifact) :
    ModesRefine (tally (judge (({ s with mode := .all } : Scanner).assess tree artifact).outcome))
      (tally (judge (({ s with mode := .onlyDelegating } : Scanner).assess tree artifact).outcome))
      (tally (judge (({ s with mode := .strict } : Scanner).assess tree artifact).outcome)) := by
  rw [outcome_assess_in, outcome_assess_in, outcome_assess_in]
  -- the artifact can drop out at four places, and the evidence decides who gets past the second
  cases (s.disassembler.evidence artifact.path artifact.runtime artifact.creation).outcome with
  | error fault => exact .ofCounts _
  | ok evidence =>
    have hall : Mode.all.wantsEvidence evidence = true := rfl
    have honly : Mode.onlyDelegating.wantsEvidence evidence = evidence.hasStrippedHit := rfl
    have hstrict : Mode.strict.wantsEvidence evidence = evidence.hasStrippedHit := rfl
    have hsame := @correlate_evidence s tree artifact evidence
    simp only [bind, Except.bind, hall, honly, hstrict, if_true]
    cases hhit : evidence.hasStrippedHit with
    | false =>
      cases hrecord : (s.correlate tree artifact evidence).outcome with
      | error fault => exact refines_of_late_fault fault
      | ok record => exact refines_of_no_hit (by rw [hsame hrecord, hhit])
    | true =>
      cases hrecord : (s.correlate tree artifact evidence).outcome with
      | error fault => exact .ofCounts _
      | ok record => exact refines_of_hit (by rw [hsame hrecord, hhit])

/-- The comparison for a file. -/
theorem verdict_refines (s : Scanner) (tree : FileTree) (path : Text) :
    ModesRefine (tally (({ s with mode := .all } : Scanner).verdict tree path))
      (tally (({ s with mode := .onlyDelegating } : Scanner).verdict tree path))
      (tally (({ s with mode := .strict } : Scanner).verdict tree path)) := by
  rw [verdict, verdict, verdict]
  cases (tree.readArtifact path).outcome with
  | error fault => exact .ofCounts _
  | ok artifact =>
    cases hcandidate : artifact.isCandidate with
    | false =>
      simp only [hcandidate]
      exact .ofCounts _
    | true =>
      simp only [hcandidate]
      exact judge_refines s tree artifact

/-! ## Whole scans -/

/-- What one file preserves, a run through any number of files preserves. -/
theorem foldl_refines (s : Scanner) (tree : FileTree) (paths : List Path)
    {all only strict : Findings}
    (h : ModesRefine (all.records, all.summary) (only.records, only.summary)
      (strict.records, strict.summary)) :
    let run := fun (mode : Mode) (found : Findings) =>
      paths.foldl (fun found path =>
        found.add (({ s with mode } : Scanner).verdict tree path.toText)) found
    ModesRefine ((run .all all).records, (run .all all).summary)
      ((run .onlyDelegating only).records, (run .onlyDelegating only).summary)
      ((run .strict strict).records, (run .strict strict).summary) := by
  induction paths generalizing all only strict with
  | nil => exact h
  | cons path rest ih => exact ih (h.merge (verdict_refines s tree path.toText))

/-- **Mode refinement.** If the root can be looked at, a scan ends with findings in every mode; the
records of a stricter mode are those of the next more generous one that it wants, in their
order, and the counts compare accordingly. If it cannot, all modes end with the same fault. -/
theorem scan_refines (s : Scanner) (tree : FileTree) (root : Text) (onRecord : Record → Run Unit)
    (quiet : ∀ record, (onRecord record).outcome = .ok ()) :
    (∃ fault, (tree.artifacts root).outcome = .error fault ∧
        ∀ mode, (({ s with mode } : Scanner).scan tree root onRecord).outcome = .error fault) ∨
      ∃ all only strict : Findings,
        (({ s with mode := .all } : Scanner).scan tree root onRecord).outcome = .ok all ∧
        (({ s with mode := .onlyDelegating } : Scanner).scan tree root onRecord).outcome =
          .ok only ∧
        (({ s with mode := .strict } : Scanner).scan tree root onRecord).outcome = .ok strict ∧
        ModesRefine (all.records, all.summary) (only.records, only.summary)
          (strict.records, strict.summary) := by
  simp only [outcome_scan quiet]
  cases (tree.artifacts root).outcome with
  | error fault => exact .inl ⟨fault, rfl, fun _ => rfl⟩
  | ok paths =>
    exact .inr ⟨_, _, _, rfl, rfl, rfl, foldl_refines s tree paths (.ofCounts {})⟩

/-- The artifact of a contract with this code, ABI and main source. -/
def gradedFile (name code source : Text) (abi : List Json.Value) : Text × Node :=
  (name ++ ".json", .ofText (Json.render (.obj
    [("contractName", .str name), ("deployedBytecode", .str code), ("abi", .arr abi),
     ("sourceName", .str source)])))

/-- Four contracts: one that delegates, can be reached and has a source that says so, one that only
delegates, one that does not, and one that does not whose source path has misplaced wildcards. -/
def gradedTree : FileTree :=
  { entries := [("A.sol", .ofText "t.delegatecall(d);"),
    ("out", .dir
      [gradedFile "A" "0x60f4" "A.sol" [.obj [("type", .str "receive")]],
       gradedFile "B" "0x60f4" "B.sol" [],
       gradedFile "C" "0x6000" "C.sol" [],
       gradedFile "D" "0x6000" "a**b.sol" []])] }

/-- The scan of these contracts. -/
def gradedScan (mode : Mode) : Except Fault Findings :=
  (({ disassembler := byteDisassembler, mode } : Scanner).scan gradedTree "out"
    fun _ => pure ()).outcome

/-- Every mode passes over one contract more, and the last contract fails where its source is looked
for, which the most generous mode alone does. -/
theorem scan_refines_graded :
    ∃ all only strict : Findings,
      gradedScan .all = .ok all ∧ gradedScan .onlyDelegating = .ok only ∧
        gradedScan .strict = .ok strict ∧
        ModesRefine (all.records, all.summary) (only.records, only.summary)
          (strict.records, strict.summary) ∧
        all.records.map Record.contractName = ["A", "B", "C"] ∧
        only.records.map Record.contractName = ["A", "B"] ∧
        strict.records.map Record.contractName = ["A"] ∧
        all.summary = ⟨4, 4, 3, 1⟩ ∧ only.summary = ⟨4, 4, 2, 0⟩ ∧
        strict.summary = ⟨4, 4, 1, 0⟩ := by
  have hpaths : (gradedTree.artifacts "out").outcome =
      .ok [Path.ofText "out/A.json", Path.ofText "out/B.json", Path.ofText "out/C.json",
        Path.ofText "out/D.json"] :=
    FileTree.outcome_artifacts_of_sorted rfl (by decide +kernel) (by decide) (by decide)
  have hscan : ∀ mode, gradedScan mode = _ := fun mode =>
    scan_of_artifacts (fun _ => rfl) hpaths
  rcases scan_refines { disassembler := byteDisassembler } gradedTree "out" (fun _ => pure ())
      (fun _ => rfl) with
    ⟨fault, hfault, -⟩ | ⟨all, only, strict, hall, honly, hstrict, hrefines⟩
  · cases hpaths.symm.trans hfault
  · have hsame := Except.ok.inj (hall.symm.trans (hscan .all))
    have honlySame := Except.ok.inj (honly.symm.trans (hscan .onlyDelegating))
    have hstrictSame := Except.ok.inj (hstrict.symm.trans (hscan .strict))
    refine ⟨all, only, strict, hall, honly, hstrict, hrefines, ?_⟩
    rw [hsame, honlySame, hstrictSame]
    decide +kernel

end Scanner
end DelegateAudit

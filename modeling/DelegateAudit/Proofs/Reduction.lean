import DelegateAudit.Proofs.Accounting
import DelegateAudit.Proofs.Silence

/-!
# DelegateAudit — a scan is a reduction of the scans of its files

The counts of a scan form a commutative monoid under merging, so it does not matter which files
are looked at together, in which order, and how the partial counts are put together afterwards. What
a scan adds to looking at its files one by one is the order of the records and that each of them
is handed on.

Main results:

* `Merging.total_eq_sum` — how counts are merged cannot be seen in the total.
* `Scanner.outcome_countGroups` — groups of files are counted without a fault, whatever is in them.
* `Scanner.scan_reduces` — records, what is handed on, and counts of a scan, from the verdicts on
  its files alone.
-/

namespace DelegateAudit

-- ---------------------------------------------------------------------------
-- Merging counts
-- ---------------------------------------------------------------------------

namespace Summary

instance : Add Summary := ⟨merge⟩

instance : Zero Summary := ⟨{}⟩

instance : AddCommMonoid Summary where
  nsmul := nsmulRec
  add_assoc a b c := by
    show (a.merge b).merge c = a.merge (b.merge c)
    simp only [merge, add_assoc]
  zero_add a := by
    show merge {} a = a
    simp only [merge, zero_add]
  add_zero a := by
    show a.merge {} = a
    simp only [merge, add_zero]
  add_comm a b := by
    show a.merge b = b.merge a
    simp only [merge, add_comm]

end Summary

/-- A way to put partial counts together: pairs of results are merged until one is left. -/
inductive Merging where
  | nothing
  | part (counts : Summary)
  | merge (left right : Merging)

namespace Merging

/-- The counts that are put together, from left to right. -/
def parts : Merging → List Summary
  | nothing => []
  | part counts => [counts]
  | merge left right => left.parts ++ right.parts

/-- What is left in the end. -/
def total : Merging → Summary
  | nothing => {}
  | part counts => counts
  | merge left right => left.total.merge right.total

theorem total_eq_sum (merging : Merging) : merging.total = merging.parts.sum := by
  induction merging with
  | nothing => rfl
  | part counts => exact List.sum_singleton.symm
  | merge left right hleft hright =>
    rw [total, parts, List.sum_append, hleft, hright]
    rfl

end Merging

theorem Findings.summary_foldl (verdicts : List (Option Record × Summary)) (found : Findings) :
    (verdicts.foldl add found).summary = found.summary + (verdicts.map Prod.snd).sum := by
  induction verdicts generalizing found with
  | nil => exact (add_zero _).symm
  | cons verdict rest ih =>
    have hadd : (found.add verdict).summary = found.summary + verdict.2 := rfl
    rw [List.foldl_cons, ih, hadd, List.map_cons, List.sum_cons, add_assoc]

namespace Scanner

variable (s : Scanner) (tree : FileTree)

-- ---------------------------------------------------------------------------
-- Groups of files
-- ---------------------------------------------------------------------------

/-- Look at one more file and merge its counts. -/
def countFile (counts : Summary) (path : Path) : Run Summary := do
  let verdict ← s.scanFile tree path.toText
  pure (counts.merge verdict.2)

/-- Look at a group of files one after the other. -/
def countGroup (group : List Path) : Run Summary := group.foldlM (s.countFile tree) {}

/-- The counts of one file. -/
def countsOf (path : Path) : Summary := (s.verdict tree path.toText).2

theorem outcome_countFile (counts : Summary) (path : Path) :
    (s.countFile tree counts path).outcome = .ok (counts + s.countsOf tree path) :=
  Run.outcome_bind_of_ok (outcome_scanFile s tree path.toText) _

theorem outcome_foldlM_countFile (counts : Summary) (group : List Path) :
    (group.foldlM (s.countFile tree) counts).outcome =
      .ok (counts + (group.map (s.countsOf tree)).sum) := by
  induction group generalizing counts with
  | nil =>
    rw [List.map_nil, List.sum_nil, add_zero]
    rfl
  | cons path rest ih =>
    rw [List.foldlM_cons, Run.outcome_bind_of_ok (s.outcome_countFile tree counts path), ih,
      List.map_cons, List.sum_cons, add_assoc]

theorem outcome_countGroup (group : List Path) :
    (s.countGroup tree group).outcome = .ok (group.map (s.countsOf tree)).sum := by
  have hzero : ({} : Summary) = 0 := rfl
  rw [countGroup, outcome_foldlM_countFile, hzero, zero_add]

theorem outcome_countGroups (groups : List (List Path)) :
    (groups.mapM (s.countGroup tree)).outcome =
      .ok (groups.map fun group => (group.map (s.countsOf tree)).sum) := by
  induction groups with
  | nil => rfl
  | cons group rest ih =>
    rw [List.mapM_cons, Run.outcome_bind_of_ok (s.outcome_countGroup tree group),
      Run.outcome_bind_of_ok ih]
    rfl

/-- Files can be divided among groups, and the groups among mergers, in any way. -/
theorem total_eq_of_perm {groups : List (List Path)} {paths : List Path}
    (hgroups : groups.flatten.Perm paths) {merging : Merging}
    (hparts : merging.parts.Perm
      (groups.map fun group => (group.map (s.countsOf tree)).sum)) :
    merging.total = (paths.map (s.countsOf tree)).sum := by
  calc merging.total
      = merging.parts.sum := merging.total_eq_sum
    _ = (groups.map fun group => (group.map (s.countsOf tree)).sum).sum := hparts.sum_eq
    _ = (groups.flatten.map (s.countsOf tree)).sum := by
        rw [List.map_flatten, List.sum_flatten, List.map_map]
        rfl
    _ = (paths.map (s.countsOf tree)).sum := (hgroups.map _).sum_eq

-- ---------------------------------------------------------------------------
-- Scans
-- ---------------------------------------------------------------------------

theorem records_findingsAfter (found : Findings) (paths : List Path) :
    (s.findingsAfter tree found paths).records = found.records ++ s.recordsOf tree paths :=
  Findings.records_foldl_add (fun path => s.verdict tree path.toText) found paths

theorem summary_findingsAfter (found : Findings) (paths : List Path) :
    (s.findingsAfter tree found paths).summary =
      found.summary + (paths.map (s.countsOf tree)).sum := by
  unfold findingsAfter
  rw [← List.foldl_map, Findings.summary_foldl, List.map_map]
  rfl

/-- **A scan is a reduction.** If the artifacts cannot be found, the scan ends with the same fault.
Otherwise there is a verdict on each of the files. The records of the scan are theirs, in the
order of the files; whatever is done with records, it is done with these, one after the other;
and however the files are divided into groups, in whatever order the groups are counted, and
however the counts of the groups are merged, the total is the one of the scan. -/
theorem scan_reduces (root : Text) :
    (∀ fault onRecord, (tree.artifacts root).outcome = .error fault →
        (s.scan tree root onRecord).outcome = .error fault) ∧
      ∀ paths, (tree.artifacts root).outcome = .ok paths →
        ∃ verdicts found,
          List.Forall₂ (fun path verdict => (s.scanFile tree path.toText).outcome = .ok verdict)
            paths verdicts ∧
          (s.scan tree root fun _ => pure ()).outcome = .ok found ∧
          found.records = verdicts.flatMap (fun verdict => verdict.1.toList) ∧
          (∀ onRecord : Record → Run Unit, (s.scan tree root onRecord).heard =
            (do
              Run.each onRecord found.records
              pure found : Run Findings).heard) ∧
          ∀ groups : List (List Path), groups.flatten.Perm paths →
            ∃ parts, (groups.mapM (s.countGroup tree)).outcome = .ok parts ∧
              ∀ merging : Merging, merging.parts.Perm parts →
                merging.total = found.summary := by
  refine ⟨fun fault onRecord hfault => Run.outcome_bind_of_error hfault _, fun paths hpaths => ?_⟩
  have hrecords : (s.findingsAfter tree { root, mode := s.mode } paths).records =
      s.recordsOf tree paths := s.records_findingsAfter tree _ paths
  have hsummary : (s.findingsAfter tree { root, mode := s.mode } paths).summary =
      (paths.map (s.countsOf tree)).sum :=
    (s.summary_findingsAfter tree _ paths).trans (zero_add _)
  refine ⟨paths.map fun path => s.verdict tree path.toText,
    s.findingsAfter tree { root, mode := s.mode } paths, ?_, ?_, ?_, ?_, ?_⟩
  · rw [List.forall₂_map_right_iff]
    exact List.forall₂_same.mpr fun path _ => outcome_scanFile s tree path.toText
  · rw [outcome_scan (fun _ => rfl), hpaths]
    rfl
  · rw [hrecords, List.flatMap_map]
    rfl
  · intro onRecord
    rw [hrecords]
    exact s.heard_scan tree onRecord hpaths
  · intro groups hgroups
    refine ⟨_, s.outcome_countGroups tree groups, fun merging hparts => ?_⟩
    rw [hsummary]
    exact s.total_eq_of_perm tree hgroups hparts

/-- The last of three files is a group of its own and is counted first; its counts are merged
last. Its record is the only one to be printed. -/
theorem scan_reduces_mixed :
    ∃ found, (generousScanner.scan mixedTree "out" fun _ => pure ()).outcome = .ok found ∧
      (generousScanner.scan mixedTree "out" fun record =>
        Run.print record.artifactPath).prints = ["out/c.json"] ∧
      (([["out/c.json"], ["out/b.json", "out/a.json"]].map fun group =>
          group.map fun t => Path.ofText (Text.ofString t)).mapM
        (generousScanner.countGroup mixedTree)).outcome = .ok [⟨1, 1, 1, 0⟩, ⟨2, 0, 0, 1⟩] ∧
      (Merging.merge (.part ⟨2, 0, 0, 1⟩) (.merge .nothing (.part ⟨1, 1, 1, 0⟩))).total =
        found.summary := by
  have hpaths : (mixedTree.artifacts "out").outcome =
      .ok (["out/a.json", "out/b.json", "out/c.json"].map fun t => Path.ofText (Text.ofString t)) :=
    FileTree.outcome_artifacts_of_sorted rfl (by decide +kernel) (by decide) (by decide)
  have hcounts : (([["out/c.json"], ["out/b.json", "out/a.json"]].map fun group =>
      group.map fun t => Path.ofText (Text.ofString t)).mapM
        (generousScanner.countGroup mixedTree)).outcome =
          .ok [⟨1, 1, 1, 0⟩, ⟨2, 0, 0, 1⟩] := by decide +kernel
  obtain ⟨verdicts, found, hverdicts, hscan, hrecords, hheard, htotal⟩ :=
    (scan_reduces generousScanner mixedTree "out").2 _ hpaths
  refine ⟨found, hscan, ?_, hcounts, ?_⟩
  · have hfound := hscan.symm.trans (outcome_scan (fun _ => rfl) generousScanner mixedTree "out")
    rw [hpaths] at hfound
    cases hfound
    rw [← Run.prints_heard, hheard, Run.prints_heard]
    decide +kernel
  · obtain ⟨parts, hparts, hmerged⟩ := htotal
      ([["out/c.json"], ["out/b.json", "out/a.json"]].map fun group =>
        group.map fun t => Path.ofText (Text.ofString t)) (by decide)
    cases hparts.symm.trans hcounts
    exact hmerged _ (by decide)

end Scanner
end DelegateAudit

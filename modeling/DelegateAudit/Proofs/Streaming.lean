import DelegateAudit.Proofs.Reduction
import DelegateAudit.Proofs.RuleFiles

/-!
# DelegateAudit — printing a table while scanning

A table can be printed in two ways: all of it when the scan is over, or its head before the scan,
each record as soon as it is known, and its foot at the end. The scanning program does the latter,
and both are heard alike, text by text, whatever happens to single files.

The one thing that sets them apart is a scan that does not happen. If the artifacts cannot be
listed, both end with that fault, but one of them has printed the head of a table by then.

Main results:

* `CommandLine.heard_scanAndPrint`, `Scanner.heard_printTable` — each of the two ways prints the
  table of the findings.
* `Scanner.streamed_iff` — they print the same exactly if the artifacts can be listed.
* `Scanner.streamed_overlong_root` — a root for which they do not.
-/

namespace DelegateAudit

namespace Scanner

variable (s : Scanner) (tree : FileTree)

/-- Scan to the end, and print the whole table then. -/
def printTable (root : Text) : Run Unit := do
  let found ← s.scan tree root fun _ => pure ()
  Run.each Run.print (Report.table found)

theorem findingsAfter_root_mode (found : Findings) (paths : List Path) :
    (s.findingsAfter tree found paths).root = found.root ∧
      (s.findingsAfter tree found paths).mode = found.mode := by
  induction paths generalizing found with
  | nil => exact ⟨rfl, rfl⟩
  | cons path rest ih => exact ih _

/-- The table of a scan, in the parts in which it becomes known. -/
theorem table_findingsAfter (root : Text) (paths : List Path) :
    Report.table (s.findingsAfter tree { root, mode := s.mode } paths) =
      Report.header root ++ ((s.recordsOf tree paths).flatMap Report.recordLines ++
        Report.footer s.mode (s.findingsAfter tree { root, mode := s.mode } paths).summary) := by
  obtain ⟨hroot, hmode⟩ := s.findingsAfter_root_mode tree { root, mode := s.mode } paths
  have hrecords : (s.findingsAfter tree { root, mode := s.mode } paths).records =
      s.recordsOf tree paths := s.records_findingsAfter tree _ paths
  rw [Report.table, hroot, hmode, hrecords, List.append_assoc]

theorem heard_printTable {root : Text} {paths : List Path}
    (hpaths : (tree.artifacts root).outcome = .ok paths) :
    (s.printTable tree root).heard = Run.each Run.print
      (Report.table (s.findingsAfter tree { root, mode := s.mode } paths)) := by
  have hscan : (s.scan tree root fun _ => pure ()).heard =
      pure (s.findingsAfter tree { root, mode := s.mode } paths) := by
    rw [s.heard_scan tree _ hpaths, Run.each_pure]
    rfl
  rw [printTable, Run.heard_bind, hscan, pure_bind, Run.heard_each_print]

end Scanner

/-- The invariant of the scan: what the handing on of records has printed are their lines. -/
theorem CommandLine.heard_scanAndPrint (s : Scanner) (tree : FileTree) {root : Text}
    {paths : List Path} (hpaths : (tree.artifacts root).outcome = .ok paths) :
    (scanAndPrint s tree root false).heard = Run.each Run.print
      (Report.table (s.findingsAfter tree { root, mode := s.mode } paths)) := by
  obtain ⟨-, hmode⟩ := s.findingsAfter_root_mode tree { root, mode := s.mode } paths
  have hscan : (s.scan tree root fun record =>
      Run.each Run.print (Report.recordLines record)).heard =
        (do
          Run.each Run.print ((s.recordsOf tree paths).flatMap Report.recordLines)
          pure (s.findingsAfter tree { root, mode := s.mode } paths)) := by
    rw [s.heard_scan tree _ hpaths, ← Run.each_flatMap, Run.heard_bind, Run.heard_each_print]
    rfl
  have hparts : (scanAndPrint s tree root false).heard = (do
      Run.each Run.print (Report.header root)
      let found ← (s.scan tree root fun record =>
        Run.each Run.print (Report.recordLines record)).heard
      Run.each Run.print (Report.footer found.mode found.summary)) := by
    simp only [scanAndPrint, Bool.false_eq_true, if_false, Run.heard_bind, Run.heard_each_print]
  rw [hparts, hscan, s.table_findingsAfter, Run.each_append, Run.each_append, bind_assoc]
  simp only [pure_bind, hmode]

namespace Scanner

open CommandLine

variable {s : Scanner} {tree : FileTree} {root : Text}

/-- Both ways of printing print the table of the findings. -/
theorem prints_of_scan {found : Findings}
    (h : (s.scan tree root fun _ => pure ()).outcome = .ok found) :
    (scanAndPrint s tree root false).prints = Report.table found ∧
      (s.printTable tree root).prints = Report.table found := by
  obtain ⟨paths, hpaths, rfl⟩ := scan_eq_ok h
  constructor
  · rw [← Run.prints_heard, heard_scanAndPrint s tree hpaths, Run.prints_each_print]
    rfl
  · rw [← Run.prints_heard, s.heard_printTable tree hpaths, Run.prints_each_print]
    rfl

/-- Nothing is heard of a scan whose artifacts cannot be listed but the fault. -/
theorem heard_scan_of_artifacts {fault : Fault}
    (h : (tree.artifacts root).outcome = .error fault) (onRecord : Record → Run Unit) :
    (s.scan tree root onRecord).heard = Run.fail fault := by
  rw [scan, Run.heard_bind, (tree.artifacts_logs root).silent.heard_eq, h]
  rfl

/-- The head of the table is printed before the fault, if it is printed as it becomes known. -/
theorem heard_of_artifacts {fault : Fault} (h : (tree.artifacts root).outcome = .error fault) :
    (scanAndPrint s tree root false).heard = (do
        Run.each Run.print (Report.header root)
        Run.fail fault) ∧
      (s.printTable tree root).heard = Run.fail fault := by
  constructor
  · simp only [scanAndPrint, Bool.false_eq_true, if_false, Run.heard_bind, Run.heard_each_print,
      heard_scan_of_artifacts h]
    rfl
  · rw [printTable, Run.heard_bind, heard_scan_of_artifacts h]
    rfl

theorem prints_of_artifacts {fault : Fault} (h : (tree.artifacts root).outcome = .error fault) :
    (scanAndPrint s tree root false).prints = Report.header root ∧
      (s.printTable tree root).prints = [] := by
  obtain ⟨hstreamed, hwhole⟩ := heard_of_artifacts (s := s) h
  have hhead : (Run.each Run.print (Report.header root)).outcome = .ok () :=
    Run.outcome_each Run.outcome_print _
  constructor
  · rw [← Run.prints_heard, hstreamed, Run.prints_bind_of_ok hhead, Run.prints_each_print]
    exact List.append_nil _
  · rw [← Run.prints_heard, hwhole]
    rfl

/-- **Streaming a table.** If the scan has findings, both ways of printing print their table. They
print the same exactly if the artifacts can be listed. If they cannot, because a path is too long or
a directory lies too deep, both end with this fault; by then the one has printed the head of a
table, and the other nothing. -/
theorem streamed_iff (s : Scanner) (tree : FileTree) (root : Text) :
    (∀ found, (s.scan tree root fun _ => pure ()).outcome = .ok found →
        (scanAndPrint s tree root false).prints = Report.table found ∧
        (s.printTable tree root).prints = Report.table found) ∧
      ((scanAndPrint s tree root false).prints = (s.printTable tree root).prints ↔
        ∀ fault, ¬ tree.Unlistable root fault) ∧
      ∀ fault, (tree.artifacts root).outcome = .error fault →
        tree.Unlistable root fault ∧
        (scanAndPrint s tree root false).outcome = .error fault ∧
        (s.printTable tree root).outcome = .error fault ∧
        (scanAndPrint s tree root false).prints = Report.header root ∧
        (s.printTable tree root).prints = [] := by
  refine ⟨fun found => prints_of_scan, ?_, fun fault hfault =>
    ⟨FileTree.unlistable_of_artifacts hfault, ?_, ?_, prints_of_artifacts hfault⟩⟩
  · rw [← FileTree.exists_artifacts_iff]
    cases hpaths : (tree.artifacts root).outcome with
    | error fault =>
      -- the head of a table is not nothing
      obtain ⟨hhead, hnothing⟩ := prints_of_artifacts (s := s) hpaths
      rw [hhead, hnothing]
      exact iff_of_false (List.cons_ne_nil _ _) (by rintro ⟨_, ⟨⟩⟩)
    | ok paths =>
      have hscan : (s.scan tree root fun _ => pure ()).outcome = _ :=
        outcome_scan (fun _ => rfl) s tree root
      rw [hpaths] at hscan
      obtain ⟨hstreamed, hwhole⟩ := prints_of_scan hscan
      rw [hstreamed, hwhole]
      exact iff_of_true rfl ⟨paths, rfl⟩
  · have hstreamed := congrArg Run.outcome (heard_of_artifacts (s := s) hfault).1
    have hhead : (Run.each Run.print (Report.header root)).outcome = .ok () :=
      Run.outcome_each Run.outcome_print _
    rw [Run.outcome_heard, Run.outcome_bind_of_ok hhead] at hstreamed
    exact hstreamed
  · exact congrArg Run.outcome (heard_of_artifacts (s := s) hfault).2

/-- Three files, of which two drop out: the table with the record of the third, in both ways. -/
theorem streamed_iff_mixed :
    ∃ found, (generousScanner.scan mixedTree "out" fun _ => pure ()).outcome = .ok found ∧
      found.records.length = 1 ∧
      (scanAndPrint generousScanner mixedTree "out" false).prints = Report.table found ∧
      (generousScanner.printTable mixedTree "out").prints = Report.table found := by
  have hpaths : (mixedTree.artifacts "out").outcome =
      .ok (["out/a.json", "out/b.json", "out/c.json"].map fun t => Path.ofText (Text.ofString t)) :=
    FileTree.outcome_artifacts_of_sorted rfl (by decide +kernel) (by decide) (by decide)
  have hscan : (generousScanner.scan mixedTree "out" fun _ => pure ()).outcome = _ :=
    outcome_scan (fun _ => rfl) generousScanner mixedTree "out"
  rw [hpaths] at hscan
  exact ⟨_, hscan, by decide +kernel,
    (streamed_iff generousScanner mixedTree "out").1 _ hscan⟩

/-- Nothing can be there. The head of a table is printed all the same, but no table. -/
theorem streamed_overlong_root :
    (scanAndPrint generousScanner { entries := [] } overlongName false).prints =
      Report.header overlongName ∧
      (generousScanner.printTable { entries := [] } overlongName).prints = [] := by
  decide +kernel

end Scanner
end DelegateAudit

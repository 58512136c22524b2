import DelegateAudit.CommandLine.Check
import DelegateAudit.Proofs.CheckReport
import DelegateAudit.Proofs.RuleFiles
import DelegateAudit.Proofs.Silence

/-!
# DelegateAudit — exit statuses and what is printed

A program that ends with another status than zero has found out that it cannot do its work. Both
programs find this out before they print anything: the scanning program when it looks for its
disassembler and its rules, the checking program up to the first line of its report. After that line
the check disassembles once more, but what can go wrong there is either worth a notice only or
nothing that the program answers for, and then it ends with no status at all.

Main results:

* `Check.report_eq_error` — a report that ends with a fault has printed nothing, or the fault is the
  disassembler's own.
* `CommandLine.nonzero_prints_nothing` — both programs, for all words that they accept.
* `CommandLine.scan_overlong_directory` — a scan that ends with no status.
-/

namespace DelegateAudit

namespace Run

variable {α : Type}

theorem Silent.prints_eq_nil {r : Run α} (hr : r.Silent) : r.prints = [] := by
  rw [← prints_heard, hr.heard_eq]
  rfl

/-- If silent work comes first, a fault has come before anything was printed, or it comes from
what follows. -/
theorem Silent.bind_eq_error {β : Type} {r : Run α} (hr : r.Silent) {f : α → Run β} {fault : Fault}
    (h : (r >>= f).outcome = .error fault) :
    (r >>= f).prints = [] ∨
      ∃ a, r.outcome = .ok a ∧ (f a).outcome = .error fault ∧ (r >>= f).prints = (f a).prints := by
  cases hfirst : r.outcome with
  | error cause =>
    left
    rw [prints_bind_of_error hfirst, hr.prints_eq_nil]
  | ok a =>
    right
    rw [outcome_bind_of_ok hfirst] at h
    refine ⟨a, rfl, h, ?_⟩
    rw [prints_bind_of_ok hfirst, hr.prints_eq_nil, List.nil_append]

end Run

namespace CommandLine

-- ---------------------------------------------------------------------------
-- The scanning program
-- ---------------------------------------------------------------------------

/-- What the exit status of the scanning program tells, for words that it accepts. -/
structure ScanStatus (w : Surroundings) (words : List Text) (o : ScanOptions) : Prop where
  /-- With another status than zero nothing has been printed, and no program was started. -/
  nonzero : ∀ n, (scan w words).exit = .status n → n ≠ 0 →
    (scan w words).output = [] ∧ ∀ call, .process call ∉ (scan w words).journal
  missing : (scan w words).exit = .status 127 ↔ w.tools.has w.settings.castBin = false
  /-- Once there are rules, all is well unless the artifacts cannot be listed or something that is
  printed is not taken. -/
  zero : ∀ rules, w.tools.has w.settings.castBin = true →
    (RuleTables.load w.engine w.tree (rulesPath w o)).outcome = .ok rules →
    ((scan w words).exit = .status 0 ↔
        (∀ fault, ¬ w.tree.Unlistable (artifactRoot w o) fault) ∧
          w.sink.Takes (runScan w o).prints) ∧
      (∀ fault, (w.tree.artifacts (artifactRoot w o)).outcome = .error fault →
        w.tree.Unlistable (artifactRoot w o) fault ∧
          (w.sink.Takes (runScan w o).prints → (scan w words).exit = .fault fault)) ∧
      ∀ reason, w.sink.FirstRefused (runScan w o).prints reason →
        (scan w words).exit = .fault (.unprintable reason)

theorem scanStatus {w : Surroundings} {words : List Text} {o : ScanOptions}
    (hparse : (ScanOptions.program w.settings).parse {} words = .ok o) :
    ScanStatus w words o := by
  have hstatus : ∀ n, (scan w words).exit = .status n ↔
      (runScan w o).outcome = .ok n ∧ w.sink.Takes (runScan w o).prints :=
    fun n => Program.exit_start_iff hparse
  have hfault : ∀ fault, (scan w words).exit = .fault fault ↔ _ :=
    fun fault => Program.fault_start_iff hparse
  have hrefused : ∀ reason, w.sink.FirstRefused (runScan w o).prints reason →
      (scan w words).exit = .fault (.unprintable reason) :=
    fun reason h => (hfault _).mpr (.inr ⟨reason, h, rfl⟩)
  have hquiet : (runScan w o).WritesOnly Event.isAside → (scan w words).output = [] ∧
      ∀ call, .process call ∉ (scan w words).journal := by
    intro haside
    obtain ⟨hprints, hcalls⟩ := haside.prints_eq_nil
    refine ⟨Program.output_start hparse hprints, ?_⟩
    rw [scan, Program.journal_start hparse hprints]
    exact hcalls
  cases scanEnding w o with
  | toolMissing htool hend haside =>
    refine ⟨fun n _ _ => hquiet haside, ?_, fun rules hcast _ => ?_⟩
    · simp [hstatus, hend, htool, (w.sink.takes_of_aside haside).1]
    · rw [htool] at hcast
      cases hcast
  | badRules htool cause hload hend haside =>
    refine ⟨fun n _ _ => hquiet haside, ?_, fun rules _ hrules => ?_⟩
    · simp [hstatus, hend, htool]
    · rw [hload] at hrules
      cases hrules
  | strayFault htool fault hload hother hend haside =>
    refine ⟨fun n hexit _ => ?_, ?_, fun rules _ hrules => ?_⟩
    · rw [hstatus, hend] at hexit
      cases hexit.1
    · simp [hstatus, hend, htool]
    · rw [hload] at hrules
      cases hrules
  | unlistable htool rules hload fault hlist hend =>
    have hunlistable := FileTree.unlistable_of_artifacts hlist
    refine ⟨fun n hexit _ => ?_, ?_, fun _ _ _ => ⟨?_, fun other hother => ?_, hrefused⟩⟩
    · rw [hstatus, hend] at hexit
      cases hexit.1
    · simp [hstatus, hend, htool]
    · refine iff_of_false ?_ fun hall => hall.1 fault hunlistable
      simp [hstatus, hend]
    · cases hother.symm.trans hlist
      exact ⟨hunlistable, fun htakes => (hfault fault).mpr (.inl ⟨hend, htakes⟩)⟩
  | scanned htool rules hload hlist hend =>
    refine ⟨fun n hexit hn => ?_, ?_, fun _ _ _ => ⟨?_, fun other hother => ?_, hrefused⟩⟩
    · rw [hstatus, hend] at hexit
      exact absurd (Except.ok.inj hexit.1).symm hn
    · simp [hstatus, hend, htool]
    · rw [hstatus, and_iff_right hend, and_iff_right hlist]
    · exact absurd (FileTree.unlistable_of_artifacts hother) (hlist other)

end CommandLine

-- ---------------------------------------------------------------------------
-- The checking program
-- ---------------------------------------------------------------------------

namespace Check

variable {d : Disassembler}

theorem inspect_silent (tools : Toolbox) (tool : Text) (limit : TimeLimit) (target : Text) :
    (inspect tools tool limit target).Silent := by
  unfold inspect
  refine (Run.writesOnly_emit rfl).bind fun _ => ?_
  split
  · exact Run.writesOnly_fail _
  · exact Run.writesOnly_fail _
  · exact Run.writesOnly_fail _
  · split
    · exact Run.writesOnly_pure _
    · exact Run.writesOnly_fail _

/-- The second look fails only with a fault of the disassembler that is not about the code. -/
theorem fullCount_eq_error {code : Bytecode} {fault : Fault}
    (h : (fullCount d code).outcome = .error fault) :
    fault.isNoLines = false ∧ ∃ bytes, d.lines bytes = .error fault := by
  unfold fullCount at h
  rw [Run.outcome_attempt_bind] at h
  by_cases hyields : ∃ lines, d.Yields code lines
  · obtain ⟨lines, hlines⟩ := hyields
    rw [Disassembler.outcome_listing_eq_ok_iff_yields.mpr hlines] at h
    cases h
  · obtain ⟨cause, hlisting, hrefuses⟩ := Disassembler.refuses_of_not_yields hyields
    rw [hlisting] at h
    simp only at h
    cases hcause : cause.isNoLines with
    | true =>
      rw [hcause] at h
      cases h
    | false =>
      rw [hcause] at h
      obtain rfl : cause = fault := Except.error.inj h
      refine ⟨hcause, ?_⟩
      obtain ⟨-, hdecode | ⟨bytes, -, hlines⟩⟩ := hrefuses
      · rw [Bytecode.isNoLines_of_toBytes hdecode] at hcause
        cases hcause
      · exact ⟨bytes, hlines⟩

theorem afterCount_eq_error {code : Bytecode} {count : Nat} {fault : Fault}
    (h : (afterCount d code count).outcome = .error fault) :
    fault.isNoLines = false ∧ ∃ bytes, d.lines bytes = .error fault := by
  unfold afterCount at h
  split at h
  · cases hfull : (fullCount d code).outcome with
    | error cause =>
      rw [Run.outcome_bind_of_error hfull] at h
      cases h
      exact fullCount_eq_error hfull
    | ok full =>
      rw [Run.outcome_bind_of_ok hfull] at h
      split at h
      · cases h
      · cases h
  · cases h

/-- A report that fails has printed nothing, or has come to its second look. -/
theorem report_eq_error {text : Option Text} {reach : Int} {fault : Fault}
    (h : (report d text reach).outcome = .error fault) :
    (report d text reach).prints = [] ∨
      fault.isNoLines = false ∧ ∃ bytes, d.lines bytes = .error fault := by
  by_cases hyields : ∃ lines, d.Yields (Bytecode.ofText text).stripped lines
  · obtain ⟨lines, hlines⟩ := hyields
    rw [(report_of_lines reach hlines).1] at h
    exact .inr (afterCount_eq_error h)
  · obtain ⟨cause, hlisting, -⟩ := Disassembler.refuses_of_not_yields hyields
    left
    rw [report, Run.prints_bind_of_error hlisting]
    exact (d.listing_untold _).prints_eq_nil

theorem reportUnbounded_eq_error {text : Option Text} {fault : Fault}
    (h : (reportUnbounded d text).outcome = .error fault) :
    (reportUnbounded d text).prints = [] ∨ fault = .noReach := by
  rcases (d.listing_untold _).bind_eq_error h with hprints | ⟨lines, -, hrest, -⟩
  · exact .inl hprints
  · cases hrest
    exact .inr rfl

end Check

/-- What the disassembler fails with is about the code, or nothing that the check answers for. -/
def Disassembler.Answerable (d : Disassembler) : Prop :=
  ∀ bytes fault, d.lines bytes = .error fault →
    fault.isNoLines = true ∨ CommandLine.checkFailure? fault = none

theorem castDisassembler_answerable (tools : Toolbox) (tool : Text) (limit : TimeLimit) :
    (castDisassembler tools tool limit).Answerable := by
  intro bytes fault h
  have hlines : castLines tools tool limit bytes = .error fault := h
  unfold castLines at hlines
  split at hlines
  · cases hlines
  · split at hlines
    · cases hlines
      exact .inl rfl
    · cases hlines
      exact .inl rfl
    · cases hlines
      exact .inr rfl
    · split at hlines
      · cases hlines
      · cases hlines
        exact .inl rfl

namespace CommandLine

variable {w : Surroundings}

theorem inspectAndPrint_eq_error {d : Disassembler} (hd : d.Answerable) {o : CheckOptions}
    {fault : Fault} (h : (inspectAndPrint w d o).outcome = .error fault) :
    (inspectAndPrint w d o).prints = [] ∨ checkFailure? fault = none := by
  rcases (Check.inspect_silent _ _ _ _).bind_eq_error h with hprints | ⟨hex, -, hrest, hprints⟩
  · exact .inl hprints
  · unfold inspectAndPrint
    rw [hprints]
    cases hreach : o.reach with
    | some reach =>
      simp only [hreach] at hrest ⊢
      refine (Check.report_eq_error hrest).imp_right ?_
      rintro ⟨hfault, bytes, hlines⟩
      refine (hd bytes fault hlines).resolve_left ?_
      rw [hfault]
      exact Bool.false_ne_true
    | none =>
      simp only [hreach] at hrest ⊢
      refine (Check.reportUnbounded_eq_error hrest).imp_right ?_
      rintro rfl
      rfl

/-- What the check answers for has happened before anything was printed. -/
theorem runCheck_nonzero {disassembler : Option Disassembler}
    (hd : ∀ d, disassembler = some d → d.Answerable) {o : CheckOptions} {n : Nat}
    (h : (runCheck w disassembler o).outcome = .ok n) (hn : n ≠ 0) :
    (runCheck w disassembler o).prints = [] := by
  have hchosen : ∀ other : Disassembler, other.Answerable →
      (disassembler.getD other).Answerable := by
    intro other hother
    cases disassembler with
    | none => exact hother
    | some d => exact hd d rfl
  unfold runCheck at h ⊢
  simp only at h ⊢
  split
  · rfl
  · next hforge =>
    rw [if_neg hforge] at h
    split
    · rfl
    · next hcast =>
      rw [if_neg hcast, Run.outcome_attempt_bind] at h
      rw [Run.prints_bind_of_ok (Run.outcome_attempt _)]
      generalize hd' : disassembler.getD _ = d at h ⊢
      have hanswers : d.Answerable := hd' ▸ hchosen _ (castDisassembler_answerable _ _ _)
      cases hrun : (inspectAndPrint w d o).outcome with
      | ok _ =>
        rw [hrun] at h
        exact absurd (Except.ok.inj h).symm hn
      | error fault =>
        rw [hrun] at h
        cases hfailure : checkFailure? fault with
        | none =>
          simp only [hfailure] at h
          cases h
        | some answer =>
          have hprints : (inspectAndPrint w d o).prints = [] := by
            refine (inspectAndPrint_eq_error hanswers hrun).resolve_right ?_
            rw [hfailure]
            exact Option.some_ne_none answer
          show (inspectAndPrint w d o).prints ++ _ = _
          rw [hprints]
          simp only [hfailure]
          rfl

/-- **A program that ends with another status than zero has printed nothing.** This holds of both
programs, for all words that they accept and whatever the files, the settings and the other programs
are. The scanning program ends with 127 exactly if its disassembler is missing; if it ends with
anything but zero it has started no program; and once its rules are loaded it ends with zero, unless
the artifacts cannot be listed or something that it prints is not taken where it goes, and then it
ends with no status. The checking program may be given any disassembler, as long as it does not
answer for a fault that has nothing to do with the code. -/
theorem nonzero_prints_nothing (w : Surroundings) (words : List Text) :
    (∀ o, (ScanOptions.program w.settings).parse {} words = .ok o → ScanStatus w words o) ∧
      ∀ disassembler : Option Disassembler, (∀ d, disassembler = some d → d.Answerable) →
        ∀ o, CheckOptions.program.parse {} words = .ok o →
          ∀ n, (check w disassembler words).exit = .status n → n ≠ 0 →
            (check w disassembler words).output = [] := by
  refine ⟨fun o hparse => scanStatus hparse, ?_⟩
  intro disassembler hd o hparse n hexit hn
  obtain ⟨hend, -⟩ := (Program.exit_start_iff hparse).mp hexit
  exact Program.output_start hparse (runCheck_nonzero hd hend hn)

/-- A rule file that is no good, and a disassembler that refuses every code. -/
def refusingSurroundings : Surroundings where
  tree := numberTree "names"
  tools := [("cast", fun _ => .finished ⟨"", "boom\n", 1⟩),
    ("forge", fun _ => .finished ⟨"0x60f4\n", "", 0⟩)]
  settings := { rulesFile := some "r.json" }

theorem nonzero_prints_nothing_refusing :
    (scan refusingSurroundings ["--strict"]).exit = .status 1 ∧
      (scan refusingSurroundings ["--strict"]).output = [] ∧
      (check refusingSurroundings none ["A.sol", "A"]).exit = .status 1 ∧
      (check refusingSurroundings none ["A.sol", "A"]).output = [] := by
  have hscanWords : (ScanOptions.program refusingSurroundings.settings).parse {} ["--strict"] =
      .ok { strict := true } := by rfl
  have hcheckWords : CheckOptions.program.parse {} ["A.sol", "A"] =
      .ok { source := "A.sol", contract := "A" } := by rfl
  have hscan : (scan refusingSurroundings ["--strict"]).exit = .status 1 := by decide +kernel
  have hcheck : (check refusingSurroundings none ["A.sol", "A"]).exit = .status 1 := by
    decide +kernel
  have hstatus := (nonzero_prints_nothing refusingSurroundings ["--strict"]).1 _ hscanWords
  have hsilent := (nonzero_prints_nothing refusingSurroundings ["A.sol", "A"]).2 none
    (fun d hd => nomatch hd) _ hcheckWords 1 hcheck Nat.one_ne_zero
  exact ⟨hscan, (hstatus.nonzero 1 hscan Nat.one_ne_zero).1, hcheck, hsilent⟩

/-- No file to fail on, a good disassembler and the built-in rules: still no status, if the name
of the directory is too long. -/
theorem scan_overlong_directory :
    Toolbox.has [("cast", byteProgram)] "cast" = true ∧
      (RuleTables.load .standard { entries := [] } none).outcome = .ok {} ∧
      (scan { tree := { entries := [] }, tools := [("cast", byteProgram)], settings := {} }
        [Scanner.overlongName]).exit =
        .fault (.system ⟨.nameTooLong, Scanner.overlongName⟩) := by
  refine ⟨rfl, rfl, ?_⟩
  decide +kernel

end CommandLine
end DelegateAudit

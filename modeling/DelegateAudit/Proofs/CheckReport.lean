import DelegateAudit.Check
import DelegateAudit.Proofs.Evidence
import DelegateAudit.Proofs.Listing

/-!
# DelegateAudit — the check of one contract agrees with the scan

A scan and the check of a single contract look for the same thing in different ways. The scan
disassembles a code with and without its tail and takes a failure for no hit; the check
disassembles the code without its tail, fails if that fails, numbers the hits, and looks at
the tail only if there are none.

Main results:

* `Check.outcome_fullCount` — the second look of the check is the second check of the scan.
* `Check.report_of_lines` — what a report prints, text by text, from the lines it is about.
* `Check.report_agrees` — the verdicts of the two agree on every code, also where one of the
  two disassemblies fails.
-/

namespace DelegateAudit

theorem Fault.isNoLines_iff {fault : Fault} :
    fault.isNoLines = true ↔
      (∃ length cause, fault = .undecodable length cause) ∨
        ∃ cause, fault = .disassembly cause := by
  cases fault <;> simp [isNoLines]

namespace Disassembler

/-- These are the lines of the code: none if there is nothing, else those of the disassembler. -/
def Yields (d : Disassembler) (code : Bytecode) (lines : List Text) : Prop :=
  code.isEmpty = true ∧ lines = [] ∨ d.Lists code lines

/-- The disassembler fails in no other way than by refusing the code. -/
def OnlyRefuses (d : Disassembler) : Prop :=
  ∀ bytes fault, d.lines bytes = .error fault → ∃ cause, fault = .disassembly cause

variable {d : Disassembler} {code : Bytecode}

theorem outcome_listing_eq_ok_iff_yields {lines : List Text} :
    (d.listing code).outcome = .ok lines ↔ d.Yields code lines := by
  unfold Yields
  cases hempty : code.isEmpty with
  | true =>
    rw [outcome_listing_of_isEmpty hempty]
    simp [Lists, hempty, eq_comm]
  | false =>
    rw [outcome_listing_eq_ok_iff hempty]
    simp

theorem refuses_of_not_yields (h : ¬ ∃ lines, d.Yields code lines) :
    ∃ fault, (d.listing code).outcome = .error fault ∧ d.Refuses code fault := by
  cases hlisting : (d.listing code).outcome with
  | ok lines => exact absurd ⟨lines, outcome_listing_eq_ok_iff_yields.mp hlisting⟩ h
  | error fault =>
    have hempty : code.isEmpty = false := by
      by_contra hne
      rw [outcome_listing_of_isEmpty (Bool.not_eq_false _ ▸ hne)] at hlisting
      cases hlisting
    exact ⟨fault, rfl, (outcome_listing_eq_error_iff hempty).mp hlisting⟩

theorem isNoLines_of_refuses (honly : d.OnlyRefuses) {fault : Fault} (h : d.Refuses code fault) :
    fault.isNoLines = true := by
  obtain ⟨-, hdecode | ⟨bytes, -, hlines⟩⟩ := h
  · exact Bytecode.isNoLines_of_toBytes hdecode
  · obtain ⟨cause, rfl⟩ := honly bytes fault hlines
    rfl

theorem findsHit_of_yields {lines : List Text} (h : d.Yields code lines) :
    d.findsHit code = .ok (Listing.hasHit lines) := by
  rw [findsHit, outcome_listing_eq_ok_iff_yields.mpr h]

theorem findsHit_of_refuses (honly : d.OnlyRefuses) {fault : Fault} (h : d.Refuses code fault) :
    d.findsHit code = .ok false :=
  findsHit_eq_false_iff.mpr (.inr (.inr ⟨fault, h, isNoLines_of_refuses honly h⟩))

/-- With such a disassembler every check comes to an answer. -/
theorem exists_findsHit (honly : d.OnlyRefuses) (code : Bytecode) :
    ∃ hit, d.findsHit code = .ok hit := by
  by_cases hyields : ∃ lines, d.Yields code lines
  · obtain ⟨lines, hlines⟩ := hyields
    exact ⟨_, findsHit_of_yields hlines⟩
  · obtain ⟨fault, -, hrefuses⟩ := refuses_of_not_yields hyields
    exact ⟨false, findsHit_of_refuses honly hrefuses⟩

/-- Disassembling is not for the reader: nothing is printed on the way. -/
theorem listing_silent (d : Disassembler) (code : Bytecode) :
    (d.listing code).prints = [] ∧ (d.listing code).notices = [] := by
  rw [listing]
  cases code.isEmpty with
  | true => exact ⟨rfl, rfl⟩
  | false =>
    rw [if_neg Bool.false_ne_true]
    cases hbytes : code.toBytes with
    | error fault =>
      constructor
      · exact Run.prints_bind_of_error rfl _
      · exact Run.notices_bind_of_error rfl _
    | ok bytes =>
      have hjournal : (Run.ofExcept (.ok bytes) >>= fun bytes => d.run bytes).journal =
          .disassembly bytes :: (d.calls bytes).map .process := Run.journal_bind_of_ok rfl _
      constructor
      · simp [Run.prints, hjournal]
      · simp [Run.notices, hjournal]

end Disassembler

namespace Check

variable {d : Disassembler} {code : Bytecode}

def countText (count : Nat) : Text := "DELEGATECALL count (reachable): " ++ Text.ofNat count

def tailNote : Text := "Note: DELEGATECALL appears only in the metadata tail (unreachable)."

/-- The second look of a report, at the code with its tail, finds what a check of it finds. -/
theorem outcome_fullCount (honly : d.OnlyRefuses) {hit : Bool} (hhit : d.findsHit code = .ok hit) :
    ∃ count, (fullCount d code).outcome = .ok count ∧ (0 < count ↔ hit = true) ∧
      (fullCount d code).prints = [] := by
  have hsilent : (d.listing code).attempt.prints = [] := (d.listing_silent code).1
  rw [fullCount]
  by_cases hyields : ∃ lines, d.Yields code lines
  · obtain ⟨lines, hlines⟩ := hyields
    have hlisting := Disassembler.outcome_listing_eq_ok_iff_yields.mpr hlines
    rw [Disassembler.findsHit_of_yields hlines] at hhit
    cases hhit
    refine ⟨Listing.hitCount lines, ?_, Listing.hitCount_pos_iff, ?_⟩
    · rw [Run.outcome_attempt_bind, hlisting]
      rfl
    · rw [Run.prints_bind_of_ok (Run.outcome_attempt _), hsilent, hlisting]
      rfl
  · obtain ⟨fault, hlisting, hrefuses⟩ := Disassembler.refuses_of_not_yields hyields
    have hfault := Disassembler.isNoLines_of_refuses honly hrefuses
    rw [Disassembler.findsHit_of_refuses honly hrefuses] at hhit
    cases hhit
    -- the failure is worth a notice only, and counts as none
    refine ⟨0, ?_, by simp, ?_⟩
    · rw [Run.outcome_attempt_bind, hlisting]
      simp only [hfault, if_true]
      rfl
    · rw [Run.prints_bind_of_ok (Run.outcome_attempt _), hsilent, hlisting]
      simp only [hfault, if_true]
      rfl

/-- What a report has to say after the count. -/
def afterCount (d : Disassembler) (code : Bytecode) (count : Nat) : Run Unit := do
  if count = 0 then
    let full ← fullCount d code
    if 0 < full then Run.print tailNote

theorem afterCount_spec (honly : d.OnlyRefuses) {hit : Bool} (hhit : d.findsHit code = .ok hit)
    (count : Nat) :
    (afterCount d code count).outcome = .ok () ∧
      (afterCount d code count).prints = if count = 0 ∧ hit = true then [tailNote] else [] := by
  rw [afterCount]
  by_cases hcount : count = 0
  · obtain ⟨full, hfull, hpos, hprints⟩ := outcome_fullCount honly hhit
    rw [if_pos hcount, Run.outcome_bind_of_ok hfull, Run.prints_bind_of_ok hfull, hprints]
    by_cases hfound : 0 < full
    · rw [if_pos hfound, if_pos ⟨hcount, hpos.mp hfound⟩]
      exact ⟨rfl, rfl⟩
    · rw [if_neg hfound, if_neg fun h => hfound (hpos.mpr h.2)]
      exact ⟨rfl, rfl⟩
  · rw [if_neg hcount, if_neg fun h => hcount h.1]
    exact ⟨rfl, rfl⟩

/-- What a report prints about the lines of the code without its tail. -/
theorem report_of_lines {text : Option Text} {lines : List Text} (reach : Int)
    (hlines : d.Yields (Bytecode.ofText text).stripped lines) :
    (report d text reach).outcome =
        (afterCount d (Bytecode.ofText text) (Listing.hitCount lines)).outcome ∧
      (report d text reach).prints =
        heading :: hitTexts lines reach ++ [countText (Listing.hitCount lines)] ++
          (afterCount d (Bytecode.ofText text) (Listing.hitCount lines)).prints := by
  have hlisting := Disassembler.outcome_listing_eq_ok_iff_yields.mpr hlines
  have hsilent := (d.listing_silent (Bytecode.ofText text).stripped).1
  have hbody : (Run.each Run.print (hitTexts lines reach)).outcome = .ok () :=
    Run.outcome_each Run.outcome_print _
  rw [report]
  constructor
  · rw [Run.outcome_bind_of_ok hlisting, Run.outcome_bind_of_ok (Run.outcome_print _),
      Run.outcome_bind_of_ok hbody, Run.outcome_bind_of_ok (Run.outcome_print _)]
    rfl
  · rw [Run.prints_bind_of_ok hlisting, Run.prints_bind_of_ok (Run.outcome_print _),
      Run.prints_bind_of_ok hbody, Run.prints_bind_of_ok (Run.outcome_print _), hsilent,
      Run.prints_each_print]
    simp only [Run.prints_print, List.nil_append, List.cons_append, List.append_assoc]
    rfl

/-- **The check of one contract and the scan agree.** Whatever the code is, the scan comes to two
answers about it. If the code without its tail is empty or has lines, the report is printed to its
end: the count in it is positive exactly if the first answer is yes, and the note about the tail
follows exactly if the first answer is no and the second yes. Otherwise the report ends with the
refusal before anything is printed, and the first answer is no. -/
theorem report_agrees (d : Disassembler) (honly : d.OnlyRefuses) (text : Option Text)
    (label : Text) (reach : Int) :
    ∃ stripped full, (d.checkSide text label).outcome = .ok (stripped, full) ∧
      (∀ lines, d.Yields (Bytecode.ofText text).stripped lines →
        (report d text reach).outcome = .ok () ∧
        (report d text reach).prints =
          heading :: hitTexts lines reach ++ [countText (Listing.hitCount lines)] ++
            (if stripped = false ∧ full = true then [tailNote] else []) ∧
        (0 < Listing.hitCount lines ↔ stripped = true)) ∧
      ((¬ ∃ lines, d.Yields (Bytecode.ofText text).stripped lines) →
        ∃ fault, d.Refuses (Bytecode.ofText text).stripped fault ∧
          ((∃ length cause, fault = .undecodable length cause) ∨
            ∃ cause, fault = .disassembly cause) ∧
          (report d text reach).outcome = .error fault ∧
          (report d text reach).prints = [] ∧ (report d text reach).notices = [] ∧
          stripped = false) := by
  obtain ⟨stripped, hstripped⟩ := d.exists_findsHit honly (Bytecode.ofText text).stripped
  obtain ⟨full, hfull⟩ := d.exists_findsHit honly (Bytecode.ofText text)
  refine ⟨stripped, full, ?_, fun lines hlines => ?_, fun hnone => ?_⟩
  · rw [Disassembler.outcome_checkSide, hstripped, hfull]
    rfl
  · -- the first answer is whether there are hits to number
    have hpos : 0 < Listing.hitCount lines ↔ stripped = true := by
      rw [Disassembler.findsHit_of_yields hlines] at hstripped
      cases hstripped
      exact Listing.hitCount_pos_iff
    have hzero : Listing.hitCount lines = 0 ↔ stripped = false := by
      rw [← Bool.not_eq_true, ← hpos]
      omega
    obtain ⟨hend, htail⟩ := afterCount_spec honly hfull (Listing.hitCount lines)
    obtain ⟨houtcome, hprints⟩ := report_of_lines reach hlines
    refine ⟨houtcome.trans hend, ?_, hpos⟩
    simp only [hprints, htail, hzero]
  · obtain ⟨fault, hlisting, hrefuses⟩ := Disassembler.refuses_of_not_yields hnone
    have hsilent := d.listing_silent (Bytecode.ofText text).stripped
    rw [d.findsHit_of_refuses honly hrefuses] at hstripped
    cases hstripped
    refine ⟨fault, hrefuses, ?_, ?_, ?_, ?_, rfl⟩
    · exact Fault.isNoLines_iff.mp (Disassembler.isNoLines_of_refuses honly hrefuses)
    · exact Run.outcome_bind_of_error hlisting _
    · exact (Run.prints_bind_of_error hlisting _).trans hsilent.1
    · exact (Run.notices_bind_of_error hlisting _).trans hsilent.2

/-- A disassembler that gives up on `60 f4`, finds nothing in `60 01` and shows a DELEGATECALL in
everything else. -/
def tailReader : Disassembler where
  lines bytes :=
    if bytes = [0x60, 0xf4] then .error (.disassembly (.failed "cast" "boom"))
    else if bytes = [0x60, 0x01] then .ok ["00000000: PUSH1 0x01"]
    else .ok ["00000001: DELEGATECALL"]
  calls _ := []

theorem tailReader_onlyRefuses : tailReader.OnlyRefuses := by
  intro bytes fault h
  simp only [tailReader] at h
  split_ifs at h
  cases h
  exact ⟨_, rfl⟩

/-- With the same tail behind them, `60 01` gets the note and `60 f4` no report at all. -/
theorem report_agrees_tails :
    tailReader.OnlyRefuses ∧
      ((report tailReader (some ("0x6001a2646970667358" : Text)) 0).outcome = .ok () ∧
        (report tailReader (some ("0x6001a2646970667358" : Text)) 0).prints =
          [heading, countText 0, tailNote]) ∧
      ∃ fault,
        (report tailReader (some ("0x60f4a2646970667358" : Text)) 0).outcome = .error fault ∧
        (report tailReader (some ("0x60f4a2646970667358" : Text)) 0).prints = [] := by
  refine ⟨tailReader_onlyRefuses, ?_, ?_⟩
  · obtain ⟨stripped, full, hside, hlines, -⟩ := report_agrees tailReader tailReader_onlyRefuses
      (some ("0x6001a2646970667358" : Text)) "runtime" 0
    have hanswers : (tailReader.checkSide (some ("0x6001a2646970667358" : Text))
        "runtime").outcome = .ok (false, true) := by decide
    cases Except.ok.inj (hside.symm.trans hanswers)
    obtain ⟨houtcome, hprints, -⟩ := hlines ["00000000: PUSH1 0x01"]
      (Disassembler.outcome_listing_eq_ok_iff_yields.mp (by decide))
    exact ⟨houtcome, hprints.trans (by decide)⟩
  · obtain ⟨stripped, full, -, -, hnone⟩ := report_agrees tailReader tailReader_onlyRefuses
      (some ("0x60f4a2646970667358" : Text)) "runtime" 0
    have hrefused : ¬ ∃ lines, tailReader.Yields
        (Bytecode.ofText (some ("0x60f4a2646970667358" : Text))).stripped lines := by
      rintro ⟨lines, hlines⟩
      have hfails : (tailReader.listing
          (Bytecode.ofText (some ("0x60f4a2646970667358" : Text))).stripped).outcome =
            .error (.disassembly (.failed "cast" "boom")) := by decide
      rw [Disassembler.outcome_listing_eq_ok_iff_yields.mpr hlines] at hfails
      cases hfails
    obtain ⟨fault, -, -, houtcome, hprints, -⟩ := hnone hrefused
    exact ⟨fault, houtcome, hprints⟩

end Check
end DelegateAudit

import DelegateAudit.Evidence
import DelegateAudit.Proofs.Outcome
import DelegateAudit.Proofs.Stripping

/-!
# DelegateAudit — what the evidence means

The evidence in an artifact is four checks, one for each of its two codes with and without
the tail. `Disassembler.findsHit` is such a check without its journal, and
`Disassembler.outcome_evidence` says that the evidence is these four and nothing else, in
order.

A check says no in three cases: there is no code, there are lines without a DELEGATECALL,
or the code was refused and there are no lines (`findsHit_eq_false_iff`). So a
DELEGATECALL that shows up in the full code only need not lie in the tail: the code without
the tail may have been refused. `Evidence.metadataOnly` cannot tell these apart, and
`Disassembler.metadataOnly_exact` says what it does mean.
-/

namespace DelegateAudit

theorem Bytecode.stripped_isEmpty {code : Bytecode} (h : code.isEmpty = true) :
    code.stripped.isEmpty = true := by
  obtain ⟨hex⟩ := code
  rw [isEmpty, List.isEmpty_iff] at h
  subst h
  rfl

/-- The work goes on without code that cannot be decoded. -/
theorem Bytecode.isNoLines_of_toBytes {code : Bytecode} {fault : Fault}
    (h : code.toBytes = .error fault) : fault.isNoLines = true := by
  rw [toBytes] at h
  cases hdigits : code.hex.dropHexMark.hexBytes with
  | error cause =>
    rw [hdigits] at h
    cases h
    rfl
  | ok bytes =>
    rw [hdigits] at h
    cases h

namespace Disassembler

/-! ## One check -/

/-- There is code, and it was disassembled to these lines. -/
def Lists (d : Disassembler) (code : Bytecode) (lines : List Text) : Prop :=
  code.isEmpty = false ∧ ∃ bytes, code.toBytes = .ok bytes ∧ d.lines bytes = .ok lines

/-- There is code, and it was not decoded or not disassembled. -/
def Refuses (d : Disassembler) (code : Bytecode) (fault : Fault) : Prop :=
  code.isEmpty = false ∧
    (code.toBytes = .error fault ∨ ∃ bytes, code.toBytes = .ok bytes ∧ d.lines bytes = .error fault)

/-- Is there a DELEGATECALL in the lines of some code? Code that gives no lines has none. -/
def findsHit (d : Disassembler) (code : Bytecode) : Except Fault Bool :=
  match (d.listing code).outcome with
  | .ok lines => .ok (Listing.hasHit lines)
  | .error fault => if fault.isNoLines then .ok false else .error fault

variable {d : Disassembler} {code : Bytecode}

theorem outcome_listing_of_isEmpty (h : code.isEmpty = true) :
    (d.listing code).outcome = .ok [] := by
  rw [listing, if_pos h]
  rfl

theorem outcome_listing_eq_ok_iff (h : code.isEmpty = false) {lines : List Text} :
    (d.listing code).outcome = .ok lines ↔ d.Lists code lines := by
  rw [listing, h, if_neg Bool.false_ne_true, Run.outcome_bind_eq_ok, Lists]
  exact (and_iff_right h).symm

theorem outcome_listing_eq_error_iff (h : code.isEmpty = false) {fault : Fault} :
    (d.listing code).outcome = .error fault ↔ d.Refuses code fault := by
  rw [listing, h, if_neg Bool.false_ne_true, Refuses, and_iff_right h]
  cases hbytes : code.toBytes with
  | error cause =>
    rw [Run.outcome_bind_of_error (Run.outcome_ofExcept _)]
    simp
  | ok bytes =>
    rw [Run.outcome_bind_of_ok (Run.outcome_ofExcept _)]
    simp [run]

theorem findsHit_of_isEmpty (h : code.isEmpty = true) : d.findsHit code = .ok false := by
  rw [findsHit, outcome_listing_of_isEmpty h]
  rfl

theorem findsHit_eq_true_iff :
    d.findsHit code = .ok true ↔ ∃ lines, d.Lists code lines ∧ Listing.hasHit lines = true := by
  cases hempty : code.isEmpty with
  | true =>
    rw [findsHit_of_isEmpty hempty]
    simp [Lists, hempty]
  | false =>
    simp only [← outcome_listing_eq_ok_iff hempty]
    rw [findsHit]
    cases (d.listing code).outcome with
    | ok lines => simp
    | error fault => cases hfault : fault.isNoLines <;> simp [hfault]

/-- The three ways in which a check says no. -/
theorem findsHit_eq_false_iff :
    d.findsHit code = .ok false ↔
      code.isEmpty = true ∨ (∃ lines, d.Lists code lines ∧ Listing.hasHit lines = false) ∨
        ∃ fault, d.Refuses code fault ∧ fault.isNoLines = true := by
  cases hempty : code.isEmpty with
  | true => simp [findsHit_of_isEmpty hempty]
  | false =>
    simp only [← outcome_listing_eq_ok_iff hempty, ← outcome_listing_eq_error_iff hempty]
    rw [findsHit]
    cases (d.listing code).outcome with
    | ok lines => simp
    | error fault => cases hfault : fault.isNoLines <;> simp [hfault]

/-! ## Four checks -/

theorem outcome_listingOrNone (d : Disassembler) (code : Bytecode) (label : Text) :
    (d.listingOrNone code label).outcome.map Listing.hasHit = d.findsHit code := by
  rw [listingOrNone, findsHit]
  cases h : (d.listing code).outcome with
  | ok lines =>
    rw [Run.outcome_recover_of_ok h]
    rfl
  | error fault =>
    rw [Run.outcome_recover_of_error h]
    simp only
    cases hfault : fault.isNoLines with
    | true => rfl
    | false => rfl

/-- A side is two checks, also where there is no code and neither is made. -/
theorem outcome_checkSide (d : Disassembler) (text : Option Text) (label : Text) :
    (d.checkSide text label).outcome =
      (do
        let stripped ← d.findsHit (Bytecode.ofText text).stripped
        let full ← d.findsHit (Bytecode.ofText text)
        pure (stripped, full)) := by
  rw [checkSide]
  cases hempty : (Bytecode.ofText text).isEmpty with
  | true =>
    -- without code nothing is looked at, and checks of nothing say no
    rw [if_pos rfl, findsHit_of_isEmpty hempty,
      findsHit_of_isEmpty (Bytecode.stripped_isEmpty hempty)]
    rfl
  | false =>
    rw [if_neg Bool.false_ne_true, ← outcome_listingOrNone d _ (label ++ " (stripped)"),
      ← outcome_listingOrNone d _ (label ++ " (full)")]
    simp only [Run.outcome_bind]
    cases (d.listingOrNone (Bytecode.ofText text).stripped (label ++ " (stripped)")).outcome with
    | error fault => rfl
    | ok stripped =>
      cases (d.listingOrNone (Bytecode.ofText text) (label ++ " (full)")).outcome with
      | error fault => rfl
      | ok full => rfl

/-- The evidence is four checks, in order, and the first that ends with a fault ends it. -/
theorem outcome_evidence (d : Disassembler) (path : Text) (runtime creation : Option Text) :
    (d.evidence path runtime creation).outcome =
      (do
        let runtimeStripped ← d.findsHit (Bytecode.ofText runtime).stripped
        let runtimeFull ← d.findsHit (Bytecode.ofText runtime)
        let creationStripped ← d.findsHit (Bytecode.ofText creation).stripped
        let creationFull ← d.findsHit (Bytecode.ofText creation)
        pure ⟨runtimeStripped, creationStripped, runtimeFull, creationFull⟩) := by
  -- the note about the tail changes the journal only
  have hlast : ∀ (e : Evidence) (message : Text),
      (do
        if e.metadataOnly then Run.log .debug message
        pure e : Run Evidence).outcome = .ok e := by
    intro e message
    cases e.metadataOnly with
    | true => rfl
    | false => rfl
  simp only [evidence, Run.outcome_bind, outcome_checkSide, bind_assoc, pure_bind, hlast]
  rfl

theorem evidence_eq_ok_iff {path : Text} {runtime creation : Option Text} {e : Evidence} :
    (d.evidence path runtime creation).outcome = .ok e ↔
      d.findsHit (Bytecode.ofText runtime).stripped = .ok e.runtimeStripped ∧
      d.findsHit (Bytecode.ofText runtime) = .ok e.runtimeFull ∧
      d.findsHit (Bytecode.ofText creation).stripped = .ok e.creationStripped ∧
      d.findsHit (Bytecode.ofText creation) = .ok e.creationFull := by
  simp only [outcome_evidence, Run.except_bind_eq_ok]
  constructor
  · rintro ⟨rs, hrs, rf, hrf, cs, hcs, cf, hcf, h⟩
    cases h
    exact ⟨hrs, hrf, hcs, hcf⟩
  · rintro ⟨hrs, hrf, hcs, hcf⟩
    exact ⟨_, hrs, _, hrf, _, hcs, _, hcf, rfl⟩

/-! ## A hit in the full code only -/

/-- Only the tail of this code has a DELEGATECALL: the full code was disassembled to lines with
one, and what stands before the tail is nothing or was disassembled to lines without one. -/
def TailOnly (d : Disassembler) (text : Option Text) : Prop :=
  (∃ lines, d.Lists (Bytecode.ofText text) lines ∧ Listing.hasHit lines = true) ∧
    ((Bytecode.ofText text).stripped.isEmpty = true ∨
      ∃ lines, d.Lists (Bytecode.ofText text).stripped lines ∧ Listing.hasHit lines = false)

/-- The full code was disassembled to lines with a DELEGATECALL, but the disassembler refused what
stands before the tail, so that nobody has looked there. -/
def TailUnclear (d : Disassembler) (text : Option Text) : Prop :=
  (∃ lines, d.Lists (Bytecode.ofText text) lines ∧ Listing.hasHit lines = true) ∧
    (Bytecode.ofText text).stripped.isEmpty = false ∧
    ∃ bytes fault, (Bytecode.ofText text).stripped.toBytes = .ok bytes ∧
      d.lines bytes = .error fault ∧ fault.isNoLines = true

/-- A hit in the full code only, seen through the two checks of one side. -/
theorem full_only_iff {text : Option Text} {stripped full : Bool}
    (hs : d.findsHit (Bytecode.ofText text).stripped = .ok stripped)
    (hf : d.findsHit (Bytecode.ofText text) = .ok full) :
    (full && !stripped) = true ↔ d.TailOnly text ∨ d.TailUnclear text := by
  rw [Bool.and_eq_true, Bool.not_eq_true']
  constructor
  · rintro ⟨rfl, rfl⟩
    have hhit := findsHit_eq_true_iff.mp hf
    rcases findsHit_eq_false_iff.mp hs with hempty | hlines | ⟨fault, ⟨hsome, hrefused⟩, hfault⟩
    · exact .inl ⟨hhit, .inl hempty⟩
    · exact .inl ⟨hhit, .inr hlines⟩
    · -- the full code decodes, hence so does its start: it was the disassembler that refused
      have ⟨_, ⟨_, bytes, hbytes, _⟩, _⟩ := hhit
      rw [Bytecode.toBytes_stripped hbytes] at hrefused
      rcases hrefused with hdecode | ⟨front, hfront, hlines⟩
      · cases hdecode
      · cases hfront
        exact .inr ⟨hhit, hsome, _, fault, Bytecode.toBytes_stripped hbytes, hlines, hfault⟩
  · rintro (⟨hhit, hclear⟩ | ⟨hhit, hsome, bytes, fault, hbytes, hlines, hfault⟩)
    · have htrue := hf.symm.trans (findsHit_eq_true_iff.mpr hhit)
      have hfalse := hs.symm.trans (findsHit_eq_false_iff.mpr (hclear.imp_right .inl))
      exact ⟨Except.ok.inj htrue, Except.ok.inj hfalse⟩
    · have htrue := hf.symm.trans (findsHit_eq_true_iff.mpr hhit)
      have hfalse := hs.symm.trans (findsHit_eq_false_iff.mpr
        (.inr (.inr ⟨fault, ⟨hsome, .inr ⟨bytes, hbytes, hlines⟩⟩, hfault⟩)))
      exact ⟨Except.ok.inj htrue, Except.ok.inj hfalse⟩

/-- **What the mark for the tail means.** It is set exactly if on one side only the tail has a
DELEGATECALL or nobody has looked before the tail. So it can be trusted exactly if no side of
the second kind is there without one of the first. -/
theorem metadataOnly_exact (d : Disassembler) (path : Text) (runtime creation : Option Text)
    (e : Evidence) (h : (d.evidence path runtime creation).outcome = .ok e) :
    (e.metadataOnly = true ↔
        (d.TailOnly runtime ∨ d.TailOnly creation) ∨
          d.TailUnclear runtime ∨ d.TailUnclear creation) ∧
      ((e.metadataOnly = true → d.TailOnly runtime ∨ d.TailOnly creation) ↔
        (d.TailUnclear runtime ∨ d.TailUnclear creation →
          d.TailOnly runtime ∨ d.TailOnly creation)) := by
  obtain ⟨hrs, hrf, hcs, hcf⟩ := evidence_eq_ok_iff.mp h
  have hmark : e.metadataOnly = true ↔
      (d.TailOnly runtime ∨ d.TailOnly creation) ∨
        d.TailUnclear runtime ∨ d.TailUnclear creation := by
    rw [Evidence.metadataOnly, Bool.or_eq_true, full_only_iff hrs hrf, full_only_iff hcs hcf,
      or_or_or_comm]
  refine ⟨hmark, ?_⟩
  rw [hmark, or_imp]
  exact and_iff_right id

/-- The byte-wise disassembler refuses nothing, so with it the mark can be trusted. -/
theorem metadataOnly_exact_bytewise :
    (byteDisassembler.evidence "out/T.json" (some ("0x60a2646970667358f4" : Text)) none).outcome =
        .ok ⟨false, false, true, false⟩ ∧
      (byteDisassembler.TailOnly (some ("0x60a2646970667358f4" : Text)) ∨
        byteDisassembler.TailOnly none) := by
  have hevidence : (byteDisassembler.evidence "out/T.json" (some ("0x60a2646970667358f4" : Text))
      none).outcome = .ok ⟨false, false, true, false⟩ := by decide
  refine ⟨hevidence, (metadataOnly_exact _ _ _ _ _ hevidence).2.mpr ?_ rfl⟩
  rintro (⟨-, -, _, _, -, hrefused, -⟩ | ⟨-, -, _, _, -, hrefused, -⟩)
  · cases hrefused
  · cases hrefused

/-- A disassembling program that gives up on `60 f4` and shows a DELEGATECALL in everything else. -/
def fussyTools : Toolbox :=
  [("cast", fun input =>
    if input = some ("0x60f4" : Text) then .finished ⟨"", "boom", 1⟩
    else .finished ⟨"00000001: DELEGATECALL\n", "", 0⟩)]

/-- The mark is set, although nobody has looked before the tail, where the DELEGATECALL stands. -/
theorem metadataOnly_without_looking :
    ∃ e, ((castDisassembler fussyTools "cast" .unlimited).evidence "out/T.json"
          (some ("0x60f4a2646970667358" : Text)) none).outcome = .ok e ∧
        e.metadataOnly = true ∧
        ¬ ((castDisassembler fussyTools "cast" .unlimited).TailOnly
              (some ("0x60f4a2646970667358" : Text)) ∨
            (castDisassembler fussyTools "cast" .unlimited).TailOnly none) := by
  refine ⟨⟨false, false, true, false⟩, by decide, rfl, ?_⟩
  rintro (⟨-, hempty | ⟨lines, ⟨-, bytes, hbytes, hlines⟩, -⟩⟩ | ⟨⟨lines, ⟨hsome, -⟩, -⟩, -⟩)
  · exact absurd hempty (by decide)
  · -- what stands before the tail is `60 f4`, which was refused
    have hfront : bytes = [0x60, 0xf4] := Except.ok.inj (hbytes.symm.trans (by decide))
    have hrefused : (castDisassembler fussyTools "cast" .unlimited).lines [0x60, 0xf4] =
        .error (.disassembly (.failed "cast" "boom")) := by decide
    rw [hfront, hrefused] at hlines
    cases hlines
  · exact absurd hsome (by decide)

end Disassembler
end DelegateAudit

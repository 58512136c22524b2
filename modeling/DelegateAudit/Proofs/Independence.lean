import DelegateAudit.Proofs.SideBytes

/-!
# DelegateAudit — four checks that know nothing of each other

The evidence in an artifact comes from four checks, which share one disassembler: two codes, each
with and without its tail. A check that fails says no and the next one is made. So it should make
no difference to three of them how the fourth ends.

What a check is about are the bytes that its code hands to the disassembler (`Bytecode.Hands`).
Empty code and code that cannot be decoded hand nothing over. A check is then known from the
listings that the handed bytes get (`Disassembler.findsHit_congr`): nothing else in the artifact,
neither the other code nor the other form of the same code, has a part in it. This holds for any
two disassemblers, so it can be used to compare one with another that fails more often.

Main results:

* `Disassembler.RefusesOn` — a disassembler that fails on some codes more than another.
* `Disassembler.findsHit_congr` — what a check depends on.
* `Disassembler.evidence_independent` — failures take away the marks of their own codes only.
-/

namespace DelegateAudit

-- ---------------------------------------------------------------------------
-- Marks and their codes
-- ---------------------------------------------------------------------------

/-- The four marks that evidence is made of. -/
inductive Evidence.Mark where
  | runtimeStripped
  | creationStripped
  | runtimeFull
  | creationFull
deriving DecidableEq, Repr

/-- Is this mark set? -/
def Evidence.isSet (e : Evidence) : Mark → Bool
  | .runtimeStripped => e.runtimeStripped
  | .creationStripped => e.creationStripped
  | .runtimeFull => e.runtimeFull
  | .creationFull => e.creationFull

/-- The code that a mark is about, in an artifact with these two codes. -/
def Evidence.Mark.code (runtime creation : Option Text) : Mark → Bytecode
  | .runtimeStripped => (Bytecode.ofText runtime).stripped
  | .creationStripped => (Bytecode.ofText creation).stripped
  | .runtimeFull => Bytecode.ofText runtime
  | .creationFull => Bytecode.ofText creation

/-- These bytes of the code are given to the disassembler. -/
def Bytecode.Hands (code : Bytecode) (bytes : Bytes) : Prop :=
  code.isEmpty = false ∧ code.toBytes = .ok bytes

/-- The code is one of these: its bytes are among them and are given to the disassembler. -/
def Bytecode.IsAmong (code : Bytecode) (codes : Set Bytes) : Prop :=
  ∃ bytes ∈ codes, code.Hands bytes

theorem Bytecode.Hands.unique {code : Bytecode} {bytes other : Bytes} (h : code.Hands bytes)
    (hother : code.Hands other) : other = bytes :=
  Except.ok.inj (hother.2.symm.trans h.2)

namespace Disassembler

variable {d d' : Disassembler} {code code' : Bytecode}

-- ---------------------------------------------------------------------------
-- What a check depends on
-- ---------------------------------------------------------------------------

theorem lists_iff_hands {lines : List Text} :
    d.Lists code lines ↔ ∃ bytes, code.Hands bytes ∧ d.lines bytes = .ok lines := by
  unfold Lists Bytecode.Hands
  simp only [and_assoc, exists_and_left]

/-- **A check depends on listings only.** Where two codes get the same lines from two
disassemblers, the checks end alike. -/
theorem findsHit_congr (honly : d.OnlyRefuses) (honly' : d'.OnlyRefuses)
    (h : ∀ lines, d.Lists code lines ↔ d'.Lists code' lines) :
    d.findsHit code = d'.findsHit code' := by
  obtain ⟨hit, hhit⟩ := exists_findsHit honly code
  obtain ⟨hit', hhit'⟩ := exists_findsHit honly' code'
  have hlisted : d.findsHit code = .ok true ↔ d'.findsHit code' = .ok true := by
    rw [findsHit_eq_true_iff, findsHit_eq_true_iff]
    simp only [h]
  have heq : hit = hit' := by
    rw [hhit, hhit', Except.ok.injEq, Except.ok.injEq] at hlisted
    exact Bool.eq_iff_iff.mpr hlisted
  rw [hhit, hhit', heq]

/-- A code that is never listed has no hit. -/
theorem findsHit_of_not_lists (honly : d.OnlyRefuses) (h : ∀ lines, ¬ d.Lists code lines) :
    d.findsHit code = .ok false := by
  obtain ⟨hit, hhit⟩ := exists_findsHit honly code
  cases hit with
  | false => exact hhit
  | true =>
    obtain ⟨lines, hlines, -⟩ := findsHit_eq_true_iff.mp hhit
    exact absurd hlines (h lines)

-- ---------------------------------------------------------------------------
-- More failures
-- ---------------------------------------------------------------------------

/-- The second disassembler refuses these codes and is otherwise like the first. -/
structure RefusesOn (d : Disassembler) (codes : Set Bytes) (d' : Disassembler) : Prop where
  refused   : ∀ bytes ∈ codes, ∃ cause, d'.lines bytes = .error (.disassembly cause)
  otherwise : ∀ bytes ∉ codes, d'.lines bytes = d.lines bytes

namespace RefusesOn

variable {codes : Set Bytes}

theorem onlyRefuses (h : d.RefusesOn codes d') (honly : d.OnlyRefuses) : d'.OnlyRefuses := by
  intro bytes fault hfault
  by_cases hmem : bytes ∈ codes
  · obtain ⟨cause, hcause⟩ := h.refused bytes hmem
    have heq : fault = .disassembly cause := Except.error.inj (hfault.symm.trans hcause)
    exact ⟨cause, heq⟩
  · rw [h.otherwise bytes hmem] at hfault
    exact honly bytes fault hfault

theorem findsHit_of_isAmong (h : d.RefusesOn codes d') (honly : d.OnlyRefuses)
    (hcode : code.IsAmong codes) : d'.findsHit code = .ok false := by
  obtain ⟨bytes, hmem, hbytes⟩ := hcode
  obtain ⟨cause, hcause⟩ := h.refused bytes hmem
  apply findsHit_of_not_lists (h.onlyRefuses honly)
  intro lines hlists
  obtain ⟨other, hother, hlines⟩ := lists_iff_hands.mp hlists
  rw [hbytes.unique hother, hcause] at hlines
  cases hlines

theorem findsHit_of_not_isAmong (h : d.RefusesOn codes d') (honly : d.OnlyRefuses)
    (hcode : ¬ code.IsAmong codes) : d'.findsHit code = d.findsHit code := by
  apply findsHit_congr (h.onlyRefuses honly) honly
  intro lines
  rw [lists_iff_hands, lists_iff_hands]
  -- bytes that are handed over are none of the refused ones
  have hlines : ∀ bytes, code.Hands bytes → d'.lines bytes = d.lines bytes := by
    intro bytes hbytes
    exact h.otherwise bytes fun hmem => hcode ⟨bytes, hmem, hbytes⟩
  exact exists_congr fun bytes => and_congr_right fun hbytes => by rw [hlines bytes hbytes]

end RefusesOn

-- ---------------------------------------------------------------------------
-- The evidence
-- ---------------------------------------------------------------------------

theorem evidence_eq_ok_iff_marks {path : Text} {runtime creation : Option Text} {e : Evidence} :
    (d.evidence path runtime creation).outcome = .ok e ↔
      ∀ mark : Evidence.Mark, d.findsHit (mark.code runtime creation) = .ok (e.isSet mark) := by
  rw [evidence_eq_ok_iff]
  constructor
  · rintro ⟨hrs, hrf, hcs, hcf⟩ mark
    cases mark with
    | runtimeStripped => exact hrs
    | creationStripped => exact hcs
    | runtimeFull => exact hrf
    | creationFull => exact hcf
  · intro h
    exact ⟨h .runtimeStripped, h .runtimeFull, h .creationStripped, h .creationFull⟩

/-- A disassembler that only refuses never keeps an artifact from its evidence. -/
theorem exists_evidence (honly : d.OnlyRefuses) (path : Text) (runtime creation : Option Text) :
    ∃ e, (d.evidence path runtime creation).outcome = .ok e := by
  obtain ⟨rs, hrs⟩ := exists_findsHit honly (Bytecode.ofText runtime).stripped
  obtain ⟨rf, hrf⟩ := exists_findsHit honly (Bytecode.ofText runtime)
  obtain ⟨cs, hcs⟩ := exists_findsHit honly (Bytecode.ofText creation).stripped
  obtain ⟨cf, hcf⟩ := exists_findsHit honly (Bytecode.ofText creation)
  exact ⟨⟨rs, cs, rf, cf⟩, evidence_eq_ok_iff.mpr ⟨hrs, hrf, hcs, hcf⟩⟩

/-- **The four checks are independent.** A disassembler that refuses some more codes still gives
evidence for every artifact. A mark whose own code is among the refused ones is not set, and every
other mark stays as it was. Nor does a mark depend on anything but its own code: in any other
artifact in which the same bytes are handed over for it, whatever else is there and cannot be
decoded or disassembled, it is the same. -/
theorem evidence_independent (d d' : Disassembler) (codes : Set Bytes) (honly : d.OnlyRefuses)
    (hrefuses : d.RefusesOn codes d') (path : Text) (runtime creation : Option Text) :
    ∃ e e', (d.evidence path runtime creation).outcome = .ok e ∧
      (d'.evidence path runtime creation).outcome = .ok e' ∧
      ∀ mark : Evidence.Mark,
        ((mark.code runtime creation).IsAmong codes → e'.isSet mark = false) ∧
        (¬ (mark.code runtime creation).IsAmong codes → e'.isSet mark = e.isSet mark) ∧
        ∀ path' runtime' creation',
          (∀ bytes, (mark.code runtime' creation').Hands bytes ↔
            (mark.code runtime creation).Hands bytes) →
          ∃ e'', (d'.evidence path' runtime' creation').outcome = .ok e'' ∧
            e''.isSet mark = e'.isSet mark := by
  have honly' := hrefuses.onlyRefuses honly
  obtain ⟨e, he⟩ := exists_evidence honly path runtime creation
  obtain ⟨e', he'⟩ := exists_evidence honly' path runtime creation
  refine ⟨e, e', he, he', ?_⟩
  intro mark
  have hmark := evidence_eq_ok_iff_marks.mp he mark
  have hmark' := evidence_eq_ok_iff_marks.mp he' mark
  refine ⟨?_, ?_, ?_⟩
  · intro hcode
    have hnone := hrefuses.findsHit_of_isAmong honly hcode
    exact Except.ok.inj (hmark'.symm.trans hnone)
  · intro hcode
    have hsame := hrefuses.findsHit_of_not_isAmong honly hcode
    exact Except.ok.inj (hmark'.symm.trans (hsame.trans hmark))
  · intro path' runtime' creation' hbytes
    obtain ⟨e'', he''⟩ := exists_evidence honly' path' runtime' creation'
    refine ⟨e'', he'', ?_⟩
    have hmark'' := evidence_eq_ok_iff_marks.mp he'' mark
    have hsame : d'.findsHit (mark.code runtime' creation') =
        d'.findsHit (mark.code runtime creation) := by
      apply findsHit_congr honly' honly'
      intro lines
      simp only [lists_iff_hands, hbytes]
    exact Except.ok.inj (hmark''.symm.trans (hsame.trans hmark'))

/-- The disassembler that gives up on some codes. -/
def refusing (d : Disassembler) (codes : List Bytes) (cause : DisassemblyFault) : Disassembler where
  lines code := if code ∈ codes then .error (.disassembly cause) else d.lines code
  calls := d.calls

theorem refusesOn_refusing (d : Disassembler) (codes : List Bytes) (cause : DisassemblyFault) :
    d.RefusesOn {bytes | bytes ∈ codes} (d.refusing codes cause) where
  refused _ hmem := ⟨cause, if_pos hmem⟩
  otherwise _ hnot := if_neg hnot

/-- The byte-wise disassembler, giving up on `60 f4` with a tail behind it. -/
def tailShy : Disassembler :=
  byteDisassembler.refusing [0x60 :: 0xF4 :: tailBytes] (.timedOut "cast" .unlimited)

def tailedText : Text := "0x60f4a2646970667358"

/-- The same code with something behind the tail that is no digit. -/
def spoiledText : Text := "0x60f4a2646970667358zz"

/-- Where the full code is refused the mark before the tail stays, and so it does where the full
code cannot be decoded and neither can the other side. -/
theorem evidence_independent_tailed :
    byteDisassembler.OnlyRefuses ∧
      byteDisassembler.RefusesOn {bytes | bytes ∈ [0x60 :: 0xF4 :: tailBytes]} tailShy ∧
      (∃ e', (tailShy.evidence "out/T.json" (some tailedText) none).outcome = .ok e' ∧
        e'.runtimeStripped = true ∧ e'.runtimeFull = false) ∧
      ∃ e'', (tailShy.evidence "out/U.json" (some spoiledText) (some ("zz" : Text))).outcome =
        .ok e'' ∧ e''.runtimeStripped = true := by
  have hrefuses := refusesOn_refusing byteDisassembler [0x60 :: 0xF4 :: tailBytes]
    (.timedOut "cast" .unlimited)
  refine ⟨byteDisassembler_onlyRefuses, hrefuses, ?_⟩
  obtain ⟨e, e', he, he', hmarks⟩ := evidence_independent byteDisassembler tailShy _
    byteDisassembler_onlyRefuses hrefuses "out/T.json" (some tailedText) none
  have hevidence : (byteDisassembler.evidence "out/T.json" (some tailedText) none).outcome =
      .ok ⟨true, false, true, false⟩ := by decide
  obtain rfl : e = ⟨true, false, true, false⟩ := Except.ok.inj (he.symm.trans hevidence)
  obtain ⟨-, hkept, hothers⟩ := hmarks .runtimeStripped
  have hfront : Evidence.Mark.code (some tailedText) none .runtimeStripped = ⟨"60f4"⟩ := by decide
  have hstripped : e'.runtimeStripped = true := by
    apply hkept
    rintro ⟨bytes, hmem, hbytes⟩
    rw [hfront] at hbytes
    have hdecoded : bytes = [0x60, 0xF4] := Except.ok.inj (hbytes.2.symm.trans (by decide))
    subst hdecoded
    exact absurd hmem (by decide)
  refine ⟨⟨e', he', hstripped, ?_⟩, ?_⟩
  · refine (hmarks .runtimeFull).1 ⟨0x60 :: 0xF4 :: tailBytes, List.mem_singleton_self _, ?_⟩
    exact ⟨by decide, by decide⟩
  · have hsame : Evidence.Mark.code (some spoiledText) (some ("zz" : Text)) .runtimeStripped =
        Evidence.Mark.code (some tailedText) none .runtimeStripped := by decide
    obtain ⟨e'', he'', hset⟩ := hothers "out/U.json" (some spoiledText) (some ("zz" : Text))
      fun bytes => by rw [hsame]
    exact ⟨e'', he'', hset.trans hstripped⟩

end Disassembler
end DelegateAudit

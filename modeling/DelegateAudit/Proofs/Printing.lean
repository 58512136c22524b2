import DelegateAudit.CommandLine.Outcome
import DelegateAudit.Proofs.Silence

/-!
# DelegateAudit — results that are not taken

What a run prints goes somewhere, and may not be taken there. `Sink.Takes` and `Sink.FirstRefused`
say what becomes of the printed texts, in order: either all of them are taken and the run goes on as
if nothing could be refused, or there is a first one that is not, and the run ends there. From this
follows how a program ends that is started with words it accepts (`Program.exit_start_iff`,
`Program.fault_start_iff`).

Main results:

* `Sink.takes_or_firstRefused` — one of the two is the case.
* `Program.exit_start_iff`, `Program.fault_start_iff` — how a program ends.
* `Program.output_start`, `Program.journal_start` — what is left of a run that printed nothing.
-/

namespace DelegateAudit

-- ---------------------------------------------------------------------------
-- Runs that print nothing
-- ---------------------------------------------------------------------------

/-- Is the event about the run itself, and nothing that it does? -/
def Event.isAside : Event → Bool
  | .log _ _ => true
  | .notice _ => true
  | _ => false

namespace Run

variable {α : Type}

/-- A sequence writes one kind of event if both its parts do. -/
theorem WritesOnly.bind_of_ok {β : Type} {kind : Event → Bool} {r : Run α} {f : α → Run β}
    (hr : r.WritesOnly kind) {a : α} (h : r.outcome = .ok a) (hf : (f a).WritesOnly kind) :
    (r >>= f).WritesOnly kind := by
  intro event hevent
  rw [journal_bind_of_ok h, List.mem_append] at hevent
  exact hevent.elim (hr event) (hf event)

/-- A run that only speaks about itself prints nothing and starts no program. -/
theorem WritesOnly.prints_eq_nil {r : Run α} (hr : r.WritesOnly Event.isAside) :
    r.prints = [] ∧ ∀ call, .process call ∉ r.journal := by
  constructor
  · unfold prints
    rw [List.filterMap_eq_nil_iff]
    intro event hevent
    have haside := hr event hevent
    cases event with
    | log level message | notice t => rfl
    | disassembly code | process call | print t => cases haside
  · intro call hcall
    cases hr _ hcall

end Run

-- ---------------------------------------------------------------------------
-- What becomes of printed texts
-- ---------------------------------------------------------------------------

namespace Sink

/-- All texts are taken. -/
def Takes (sink : Sink) (texts : List Text) : Prop :=
  ∀ t ∈ texts, sink.refusal? (Console.printed t) = none

/-- Some text is not taken, and this is why the first of them is not. -/
def FirstRefused (sink : Sink) (texts : List Text) (reason : Text) : Prop :=
  ∃ front t back, texts = front ++ t :: back ∧ sink.Takes front ∧
    sink.refusal? (Console.printed t) = some reason

variable {sink : Sink} {texts : List Text} {reason : Text}

theorem takes_nil (sink : Sink) : sink.Takes [] := fun _ ht => absurd ht (List.not_mem_nil)

theorem takes_iff_findSome? :
    sink.Takes texts ↔ texts.findSome? (fun t => sink.refusal? (Console.printed t)) = none :=
  List.findSome?_eq_none_iff.symm

theorem firstRefused_iff_findSome? :
    sink.FirstRefused texts reason ↔
      texts.findSome? (fun t => sink.refusal? (Console.printed t)) = some reason := by
  rw [List.findSome?_eq_some_iff]
  constructor
  · rintro ⟨front, t, back, htexts, hfront, ht⟩
    exact ⟨front, t, back, htexts, ht, hfront⟩
  · rintro ⟨front, t, back, htexts, ht, hfront⟩
    exact ⟨front, t, back, htexts, hfront, ht⟩

/-- All texts are taken, or there is a first that is not. -/
theorem takes_or_firstRefused (sink : Sink) (texts : List Text) :
    sink.Takes texts ∨ ∃ reason, sink.FirstRefused texts reason := by
  simp only [takes_iff_findSome?, firstRefused_iff_findSome?]
  cases texts.findSome? (fun t => sink.refusal? (Console.printed t)) with
  | none => exact .inl rfl
  | some reason => exact .inr ⟨reason, rfl⟩

/-- Both at once is impossible. -/
theorem FirstRefused.not_takes (h : sink.FirstRefused texts reason) : ¬ sink.Takes texts := by
  rw [takes_iff_findSome?, firstRefused_iff_findSome?.mp h]
  exact Option.some_ne_none reason

/-- Nothing is refused of a run that only speaks about itself. -/
theorem takes_of_aside {α : Type} (sink : Sink) {r : Run α} (hr : r.WritesOnly Event.isAside) :
    sink.Takes r.prints ∧ ∀ reason, ¬ sink.FirstRefused r.prints reason := by
  have htakes : sink.Takes r.prints := by
    rw [hr.prints_eq_nil.1]
    exact sink.takes_nil
  exact ⟨htakes, fun reason h => h.not_takes htakes⟩

end Sink

namespace Console

variable {α : Type} {sink : Sink} {run : Run α}

/-- Only printed texts can be refused. -/
theorem findSome?_journal (sink : Sink) (run : Run α) :
    run.journal.findSome? (refusal? sink) =
      run.prints.findSome? fun t => sink.refusal? (printed t) := by
  unfold Run.prints
  induction run.journal with
  | nil => rfl
  | cons event rest ih =>
    cases event with
    | log level message | disassembly code | process call | notice t => exact ih
    | print t =>
      simp only [List.filterMap_cons, List.findSome?_cons, ih]
      rfl

/-- Where all is taken, a run goes on as it would. -/
theorem through_of_takes (h : sink.Takes run.prints) : through sink run = run := by
  rw [through, findSome?_journal, Sink.takes_iff_findSome?.mp h]

/-- The first text that is not taken ends the run. -/
theorem outcome_through_of_refused {reason : Text} (h : sink.FirstRefused run.prints reason) :
    (through sink run).outcome = .error (.unprintable reason) := by
  rw [through, findSome?_journal, Sink.firstRefused_iff_findSome?.mp h]

/-- What comes out of a journal is what the run prints, text by text. -/
theorem output_journal (run : Run α) : output run.journal = run.prints.flatMap printed := by
  unfold output Run.prints
  induction run.journal with
  | nil => rfl
  | cons event rest ih =>
    rw [List.flatMap_cons, ih]
    cases event with
    | log level message | disassembly code | process call | notice t => rfl
    | print t => rfl

end Console

-- ---------------------------------------------------------------------------
-- Programs
-- ---------------------------------------------------------------------------

namespace CommandLine.Program

variable {σ : Type} {p : Program σ} {sink : Sink} {defaults options : σ} {words : List Text}
  {isDebug : σ → Bool} {run : σ → Run Nat}

/-- A program whose words are in order does its work through the sink. -/
theorem start_of_parse (h : p.parse defaults words = .ok options) :
    p.start sink defaults words isDebug run =
      .ofRun (isDebug options) (Console.through sink (run options)) := by
  rw [start, h]

/-- A program ends with a status if its run does and all it prints is taken. -/
theorem exit_start_iff (h : p.parse defaults words = .ok options) {status : Nat} :
    (p.start sink defaults words isDebug run).exit = .status status ↔
      (run options).outcome = .ok status ∧ sink.Takes (run options).prints := by
  rw [start_of_parse h, Outcome.ofRun]
  rcases sink.takes_or_firstRefused (run options).prints with htakes | ⟨reason, hrefused⟩
  · rw [Console.through_of_takes htakes, and_iff_left htakes]
    cases (run options).outcome <;> simp
  · rw [Console.outcome_through_of_refused hrefused]
    simp [hrefused.not_takes]

/-- A program ends with the fault of its run, or with the first text that is not taken. -/
theorem fault_start_iff (h : p.parse defaults words = .ok options) {fault : Fault} :
    (p.start sink defaults words isDebug run).exit = .fault fault ↔
      ((run options).outcome = .error fault ∧ sink.Takes (run options).prints) ∨
        ∃ reason, sink.FirstRefused (run options).prints reason ∧
          fault = .unprintable reason := by
  rw [start_of_parse h, Outcome.ofRun]
  rcases sink.takes_or_firstRefused (run options).prints with htakes | ⟨reason, hrefused⟩
  · have hnone : ¬ ∃ reason, sink.FirstRefused (run options).prints reason ∧
        fault = .unprintable reason := by
      rintro ⟨reason, hrefused, -⟩
      exact hrefused.not_takes htakes
    rw [Console.through_of_takes htakes, and_iff_left htakes, or_iff_left hnone]
    cases (run options).outcome <;> simp
  · rw [Console.outcome_through_of_refused hrefused]
    simp only [hrefused.not_takes, and_false, false_or, Exit.fault.injEq]
    constructor
    · rintro rfl
      exact ⟨reason, hrefused, rfl⟩
    · rintro ⟨other, hother, rfl⟩
      have hsame := (Sink.firstRefused_iff_findSome?.mp hrefused).symm.trans
        (Sink.firstRefused_iff_findSome?.mp hother)
      rw [Option.some.inj hsame]

/-- A run that printed nothing leaves no output. -/
theorem output_start (h : p.parse defaults words = .ok options)
    (hprints : (run options).prints = []) :
    (p.start sink defaults words isDebug run).output = [] := by
  have htakes : sink.Takes (run options).prints := hprints ▸ sink.takes_nil
  rw [start_of_parse h, Console.through_of_takes htakes]
  show Console.output (run options).journal = []
  rw [Console.output_journal, hprints]
  rfl

/-- A run that printed nothing leaves its whole journal. -/
theorem journal_start (h : p.parse defaults words = .ok options)
    (hprints : (run options).prints = []) :
    (p.start sink defaults words isDebug run).journal = (run options).journal := by
  have htakes : sink.Takes (run options).prints := hprints ▸ sink.takes_nil
  rw [start_of_parse h, Console.through_of_takes htakes]
  rfl

end CommandLine.Program
end DelegateAudit

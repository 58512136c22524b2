import Mathlib
import DelegateAudit.Run

/-!
# DelegateAudit — how runs end and what they print

What a run ends with does not depend on its journal. The lemmas here say, for every way of
building a run, how it ends, so that later proofs take a run apart step by step and never
open the definition of a run.

Of its journal, what counts in the end is what a reader gets to see: `Run.prints` for the
results, `Run.notices` for the run itself. Both of a sequence are put together from those of
its parts.
-/

namespace DelegateAudit.Run

variable {α β : Type}

/-- A run that does nothing ends with its value. -/
@[simp] theorem outcome_pure (a : α) : (pure a : Run α).outcome = .ok a := rfl

/-- Keeping a log never goes wrong. -/
@[simp] theorem outcome_log (level : Level) (message : Text) :
    (log level message).outcome = .ok () := rfl

/-- A computation ends as a run the way it ends by itself. -/
@[simp] theorem outcome_ofExcept (outcome : Except Fault α) :
    (ofExcept outcome).outcome = outcome := rfl

@[simp] theorem outcome_fail (fault : Fault) : (fail fault : Run α).outcome = .error fault := rfl

/-- An attempt always ends well: with how the run that was tried ended. -/
@[simp] theorem outcome_attempt (r : Run α) : r.attempt.outcome = .ok r.outcome := rfl

/-- A run goes on with the value of its first part. -/
theorem outcome_bind_of_ok {r : Run α} {a : α} (h : r.outcome = .ok a) (f : α → Run β) :
    (r >>= f).outcome = (f a).outcome := by
  show (r.andThen f).outcome = _
  rw [andThen, h]

/-- A fault in the first part is the end of the whole. -/
theorem outcome_bind_of_error {r : Run α} {fault : Fault} (h : r.outcome = .error fault)
    (f : α → Run β) : (r >>= f).outcome = .error fault := by
  show (r.andThen f).outcome = _
  rw [andThen, h]

/-- What follows a log entry decides how the run ends. -/
@[simp] theorem outcome_log_bind (level : Level) (message : Text) (f : Unit → Run β) :
    (log level message >>= f).outcome = (f ()).outcome :=
  outcome_bind_of_ok (outcome_log level message) f

/-- What follows an attempt sees how it ended. -/
@[simp] theorem outcome_attempt_bind (r : Run α) (f : Except Fault α → Run β) :
    (r.attempt >>= f).outcome = (f r.outcome).outcome :=
  outcome_bind_of_ok (outcome_attempt r) f

/-- The outcome of a sequence is the sequence of the outcomes. -/
theorem outcome_bind (r : Run α) (f : α → Run β) :
    (r >>= f).outcome = r.outcome >>= fun a => (f a).outcome := by
  cases h : r.outcome with
  | error fault => exact outcome_bind_of_error h f
  | ok a => exact outcome_bind_of_ok h f

/-- Two computations in a row end with a value exactly if both do, the second on the value of the
first. -/
theorem except_bind_eq_ok {x : Except Fault α} {f : α → Except Fault β} {b : β} :
    x >>= f = .ok b ↔ ∃ a, x = .ok a ∧ f a = .ok b := by
  cases x with
  | error fault => simp [bind, Except.bind]
  | ok a => simp [bind, Except.bind]

/-- A sequence ends with a value exactly if each of its runs does. -/
theorem outcome_bind_eq_ok {r : Run α} {f : α → Run β} {b : β} :
    (r >>= f).outcome = .ok b ↔ ∃ a, r.outcome = .ok a ∧ (f a).outcome = .ok b := by
  rw [outcome_bind, except_bind_eq_ok]

/-- Where nothing went wrong there is nothing to handle. -/
theorem outcome_recover_of_ok {r : Run α} {a : α} (h : r.outcome = .ok a)
    (handle : Fault → Run α) : (r.recover handle).outcome = .ok a := by
  rw [recover, h]

/-- A fault that is handled ends the way its handling does. -/
theorem outcome_recover_of_error {r : Run α} {fault : Fault} (h : r.outcome = .error fault)
    (handle : Fault → Run α) : (r.recover handle).outcome = (handle fault).outcome := by
  rw [recover, h]

/-- Going through a list ends well if every item does. -/
theorem outcome_each {f : α → Run Unit} (h : ∀ a, (f a).outcome = .ok ()) (items : List α) :
    (each f items).outcome = .ok () := by
  induction items with
  | nil => rfl
  | cons a rest ih => exact (outcome_bind_of_ok (h a) _).trans ih

/-! ## What is printed -/

/-- The texts for the reader of the results, in order. -/
def prints (r : Run α) : List Text :=
  r.journal.filterMap fun
    | .print t => some t
    | _ => none

/-- The texts about the run itself, in order. -/
def notices (r : Run α) : List Text :=
  r.journal.filterMap fun
    | .notice t => some t
    | _ => none

@[simp] theorem prints_print (t : Text) : (print t).prints = [t] := rfl

/-- The journal of a sequence is that of its parts, one after the other. -/
theorem journal_bind_of_ok {r : Run α} {a : α} (h : r.outcome = .ok a) (f : α → Run β) :
    (r >>= f).journal = r.journal ++ (f a).journal := by
  show (r.andThen f).journal = _
  rw [andThen, h]

/-- After a fault nothing more is written. -/
theorem journal_bind_of_error {r : Run α} {fault : Fault} (h : r.outcome = .error fault)
    (f : α → Run β) : (r >>= f).journal = r.journal := by
  show (r.andThen f).journal = _
  rw [andThen, h]

/-- What a sequence prints is what its parts print, one after the other. -/
theorem prints_bind_of_ok {r : Run α} {a : α} (h : r.outcome = .ok a) (f : α → Run β) :
    (r >>= f).prints = r.prints ++ (f a).prints := by
  unfold prints
  rw [journal_bind_of_ok h, List.filterMap_append]

/-- What was printed before a fault stays printed, and nothing follows. -/
theorem prints_bind_of_error {r : Run α} {fault : Fault} (h : r.outcome = .error fault)
    (f : α → Run β) : (r >>= f).prints = r.prints := by
  unfold prints
  rw [journal_bind_of_error h]

/-- The same for what is said about the run. -/
theorem notices_bind_of_error {r : Run α} {fault : Fault} (h : r.outcome = .error fault)
    (f : α → Run β) : (r >>= f).notices = r.notices := by
  unfold notices
  rw [journal_bind_of_error h]

/-- Printing never goes wrong by itself; whether a text can be written is decided outside. -/
theorem outcome_print (t : Text) : (print t).outcome = .ok () := rfl

/-- Texts that are printed one by one come out as they are. -/
theorem prints_each_print (texts : List Text) : (each print texts).prints = texts := by
  induction texts with
  | nil => rfl
  | cons t rest ih =>
    rw [each, prints_bind_of_ok (outcome_print t), ih]
    rfl

end DelegateAudit.Run

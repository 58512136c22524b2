import DelegateAudit.Fault

/-!
# DelegateAudit — runs and their journals

A run ends with a value or a fault and leaves a journal: what was logged, what was
disassembled, which programs were started and what was printed, in the order in which it
happened. A fault ends the run, but what was written into the journal before it stays.

## Main results

* `Run` is a lawful monad: the journal of a sequence is the sequence of the journals.
-/

namespace DelegateAudit

/-- How important a log entry is. -/
inductive Level where
  | debug
  | info
  | warning
deriving DecidableEq, Repr

/-- The name of a level. -/
def Level.name : Level → Text
  | .debug => "DEBUG"
  | .info => "INFO"
  | .warning => "WARNING"

/-- Something that happened during a run. -/
inductive Event where
  | log (level : Level) (message : Text)
  | disassembly (code : Bytes)
  | process (call : Call)
  /-- A text for the reader of the results. -/
  | print (text : Text)
  /-- A text about the run itself. -/
  | notice (text : Text)
deriving DecidableEq, Repr

/-- A run: how it ended, and its journal. -/
structure Run (α : Type) where
  outcome : Except Fault α
  journal : List Event

namespace Run

/-- A run that does nothing but end with a value. -/
def done {α : Type} (a : α) : Run α := ⟨.ok a, []⟩

/-- One run after another; the second does not happen when the first ends with a fault. -/
def andThen {α β : Type} (r : Run α) (f : α → Run β) : Run β :=
  match r.outcome with
  | .error fault => ⟨.error fault, r.journal⟩
  | .ok a => ⟨(f a).outcome, r.journal ++ (f a).journal⟩

instance : Monad Run where
  pure := done
  bind := andThen

theorem andThen_done {α : Type} (r : Run α) : r.andThen done = r := by
  obtain ⟨outcome, journal⟩ := r
  cases outcome <;> simp [andThen, done]

theorem andThen_assoc {α β γ : Type} (r : Run α) (f : α → Run β) (g : β → Run γ) :
    (r.andThen f).andThen g = r.andThen fun a => (f a).andThen g := by
  obtain ⟨outcome, journal⟩ := r
  cases outcome with
  | error fault => rfl
  | ok a => cases h : (f a).outcome <;> simp [andThen, h]

instance : LawfulMonad Run :=
  LawfulMonad.mk' Run (fun r => andThen_done r) (fun _ _ => by simp [pure, bind, andThen, done])
    andThen_assoc

/-- End with a fault. -/
def fail {α : Type} (fault : Fault) : Run α := ⟨.error fault, []⟩

/-- End as a computation without a journal ended. -/
def ofExcept {α : Type} (outcome : Except Fault α) : Run α := ⟨outcome, []⟩

/-- Write one event into the journal. -/
def emit (event : Event) : Run Unit := ⟨.ok (), [event]⟩

/-- Write a log entry. -/
def log (level : Level) (message : Text) : Run Unit := emit (.log level message)

/-- Print a text for the reader of the results. -/
def print (text : Text) : Run Unit := emit (.print text)

/-- Tell about the run itself. -/
def notice (text : Text) : Run Unit := emit (.notice text)

/-- Go on after a fault; what happened before it stays in the journal. -/
def recover {α : Type} (r : Run α) (handle : Fault → Run α) : Run α :=
  match r.outcome with
  | .ok a => ⟨.ok a, r.journal⟩
  | .error fault => ⟨(handle fault).outcome, r.journal ++ (handle fault).journal⟩

/-- Take how a run ended for its value, so that nothing ends early. -/
def attempt {α : Type} (r : Run α) : Run (Except Fault α) := ⟨.ok r.outcome, r.journal⟩

/-- Do something with every item of a list, in order. -/
def each {α : Type} (f : α → Run Unit) : List α → Run Unit
  | [] => pure ()
  | a :: rest => do
    f a
    each f rest

end Run
end DelegateAudit

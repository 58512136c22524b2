import DelegateAudit.Proofs.Verdict

/-!
# DelegateAudit — what is heard of a run

Most of a journal is for nobody: what was logged, which code was disassembled, which programs were
started. What is printed or noticed is told to someone, and `Run.heard` is the run with nothing
else in its journal. Hearing goes through sequences (`Run.heard_bind`), so a run is heard part by
part, and a part that works in silence is not heard at all (`Run.Silent.heard_bind`).

Reading, disassembling, sorting an ABI and looking sources up all happen in silence. So nothing
is heard of a scan but what becomes of its records.

Main results:

* `Scanner.scanFile_silent` — nothing is told on the way to the verdict on a file.
* `Scanner.heard_scan` — a scan is heard as the handing on of its records, one after the other.
-/

namespace DelegateAudit

/-- Is the event told to someone, as a result or as a notice? -/
def Event.isTold : Event → Bool
  | .print _ => true
  | .notice _ => true
  | _ => false

/-- Is the event a log entry? -/
def Event.isLog : Event → Bool
  | .log _ _ => true
  | _ => false

namespace Run

variable {α β : Type}

-- ---------------------------------------------------------------------------
-- Which events a run writes
-- ---------------------------------------------------------------------------

/-- All events of the journal are of one kind. -/
def WritesOnly (kind : Event → Bool) (r : Run α) : Prop := ∀ event ∈ r.journal, kind event = true

/-- Nothing is told to anyone. -/
def Silent (r : Run α) : Prop := r.WritesOnly fun event => !event.isTold

section WritesOnly

variable {kind : Event → Bool}

/-- An empty journal has events of any kind only. -/
theorem writesOnly_nil {r : Run α} (h : r.journal = []) : r.WritesOnly kind := by
  intro event hevent
  rw [h] at hevent
  cases hevent

theorem writesOnly_pure (a : α) : (pure a : Run α).WritesOnly kind := writesOnly_nil rfl

theorem writesOnly_fail (fault : Fault) : (fail fault : Run α).WritesOnly kind :=
  writesOnly_nil rfl

theorem writesOnly_ofExcept (outcome : Except Fault α) : (ofExcept outcome).WritesOnly kind :=
  writesOnly_nil rfl

/-- A single event is of its own kind. -/
theorem writesOnly_emit {event : Event} (h : kind event = true) :
    (emit event).WritesOnly kind := by
  intro other hother
  rw [List.mem_singleton.mp hother]
  exact h

/-- Logging writes log entries only. -/
theorem writesOnly_log (level : Level) (message : Text) :
    (log level message).WritesOnly Event.isLog :=
  writesOnly_emit rfl

/-- What both parts of a sequence write is all that the sequence writes. -/
theorem WritesOnly.bind {r : Run α} {f : α → Run β} (hr : r.WritesOnly kind)
    (hf : ∀ a, (f a).WritesOnly kind) : (r >>= f).WritesOnly kind := by
  intro event hevent
  cases h : r.outcome with
  | error fault =>
    rw [journal_bind_of_error h] at hevent
    exact hr event hevent
  | ok a =>
    rw [journal_bind_of_ok h, List.mem_append] at hevent
    exact hevent.elim (hr event) (hf a event)

/-- Catching a fault writes nothing. -/
theorem WritesOnly.attempt {r : Run α} (hr : r.WritesOnly kind) : r.attempt.WritesOnly kind := hr

/-- Going on after a fault writes what the handler writes. -/
theorem WritesOnly.recover {r : Run α} {handle : Fault → Run α} (hr : r.WritesOnly kind)
    (hhandle : ∀ fault, (handle fault).WritesOnly kind) : (r.recover handle).WritesOnly kind := by
  intro event hevent
  unfold Run.recover at hevent
  split at hevent
  · exact hr event hevent
  · next fault _ =>
    rcases List.mem_append.mp hevent with hevent | hevent
    · exact hr event hevent
    · exact hhandle fault event hevent

/-- A run that only logs writes events of every kind that log entries are of. -/
theorem WritesOnly.of_logs (hkind : ∀ level message, kind (.log level message) = true) {r : Run α}
    (hr : r.WritesOnly Event.isLog) : r.WritesOnly kind := by
  intro event hevent
  have hlog := hr event hevent
  cases event with
  | log level message => exact hkind level message
  | disassembly code | process call | print t | notice t => cases hlog

/-- Logging is silent. -/
theorem WritesOnly.silent {r : Run α} (hr : r.WritesOnly Event.isLog) : r.Silent :=
  hr.of_logs fun _ _ => rfl

end WritesOnly

-- ---------------------------------------------------------------------------
-- Hearing a run
-- ---------------------------------------------------------------------------

/-- The run for someone who gets to know what is told and how it ends. -/
def heard (r : Run α) : Run α := ⟨r.outcome, r.journal.filter Event.isTold⟩

@[simp] theorem outcome_heard (r : Run α) : r.heard.outcome = r.outcome := rfl

/-- A sequence is heard part by part. -/
theorem heard_bind (r : Run α) (f : α → Run β) :
    (r >>= f).heard = r.heard >>= fun a => (f a).heard := by
  obtain ⟨outcome, journal⟩ := r
  show (andThen _ f).heard = andThen _ _
  cases outcome with
  | error fault => rfl
  | ok a =>
    simp only [andThen, heard, List.filter_append]

/-- Of a silent run one hears how it ends. -/
theorem Silent.heard_eq {r : Run α} (hr : r.Silent) : r.heard = ofExcept r.outcome := by
  have hnone : r.journal.filter Event.isTold = [] := by
    rw [List.filter_eq_nil_iff]
    intro event hevent htold
    have hsilent : (!event.isTold) = true := hr event hevent
    rw [htold] at hsilent
    cases hsilent
  unfold heard
  rw [hnone]
  rfl

/-- What comes after a silent run is all that is heard. -/
theorem Silent.heard_bind {r : Run α} (hr : r.Silent) {a : α} (h : r.outcome = .ok a)
    (f : α → Run β) : (r >>= f).heard = (f a).heard := by
  have hpure : r.heard = pure a := by
    rw [hr.heard_eq, h]
    rfl
  rw [Run.heard_bind, hpure, pure_bind]

/-- Nothing printed is missed. -/
theorem prints_heard (r : Run α) : r.heard.prints = r.prints := by
  unfold prints heard
  rw [List.filterMap_filter]
  congr 1
  funext event
  cases event with
  | log level message | disassembly code | process call | print t | notice t => rfl

/-- Going through two lists is going through one and then the other. -/
theorem each_append (f : α → Run Unit) (items more : List α) :
    each f (items ++ more) = (do
      each f items
      each f more) := by
  induction items with
  | nil => rfl
  | cons a rest ih =>
    rw [List.cons_append, each, ih, each, bind_assoc]

/-- Going through groups of items is going through all of them. -/
theorem each_flatMap (f : β → Run Unit) (group : α → List β) (items : List α) :
    each f (items.flatMap group) = each (fun a => each f (group a)) items := by
  induction items with
  | nil => rfl
  | cons a rest ih => rw [List.flatMap_cons, each_append, each, ih]

/-- Doing nothing for every item is doing nothing. -/
theorem each_pure (items : List α) : each (fun _ => pure ()) items = pure () := by
  induction items with
  | nil => rfl
  | cons a rest ih => rw [each, pure_bind, ih]

/-- All that is printed is heard. -/
theorem heard_each_print (texts : List Text) : (each print texts).heard = each print texts := by
  induction texts with
  | nil => rfl
  | cons t rest ih =>
    rw [each, heard_bind, ih]
    rfl

end Run

-- ---------------------------------------------------------------------------
-- Silent work
-- ---------------------------------------------------------------------------

open Run

/-- Listing the artifacts is silent. -/
theorem FileTree.artifacts_logs (tree : FileTree) (root : Text) :
    (tree.artifacts root).WritesOnly Event.isLog := by
  unfold artifacts
  simp only
  split
  · exact writesOnly_fail _
  · exact (writesOnly_log _ _).bind fun _ => writesOnly_pure _
  · exact writesOnly_ofExcept _

/-- Looking for metadata is silent. -/
theorem Artifact.metadataUnder_logs (bounds : Json.Bounds) (data : Json.Members)
    (keys : List Text) : (metadataUnder bounds data keys).WritesOnly Event.isLog := by
  induction keys with
  | nil => exact writesOnly_pure _
  | cons key rest ih =>
    unfold metadataUnder
    split
    · exact writesOnly_pure _
    · split
      · exact writesOnly_pure _
      · exact ih
      · exact (writesOnly_log _ _).bind fun _ => ih
    · exact ih

/-- Reading an artifact is silent. -/
theorem FileTree.readArtifact_logs (tree : FileTree) (path : Text) :
    (tree.readArtifact path).WritesOnly Event.isLog := by
  unfold readArtifact
  split
  · exact writesOnly_fail _
  · exact (Artifact.metadataUnder_logs _ _ _).bind fun _ => writesOnly_pure _
  · exact writesOnly_fail _

/-- Sorting an ABI is silent. -/
theorem Abi.addEntries_logs (limits : Limits) (rules : ForwarderRules) (surface : Surface)
    (entries : List Json.Value) :
    (addEntries limits rules surface entries).WritesOnly Event.isLog := by
  induction entries generalizing surface with
  | nil => exact writesOnly_pure _
  | cons entry rest ih =>
    unfold addEntries
    split
    · refine (writesOnly_ofExcept _).bind fun quoted => ?_
      exact (writesOnly_log _ _).bind fun _ => ih surface
    · exact ih _
    · exact ih surface
    · refine (writesOnly_ofExcept _).bind fun signature => ?_
      refine (writesOnly_ofExcept _).bind fun selector => ?_
      exact (writesOnly_log _ _).bind fun _ => ih _

namespace SourceMatcher

variable (m : SourceMatcher)

/-- Looking into a source file is silent. -/
theorem fileMatches_logs (path : Path) : (m.fileMatches path).WritesOnly Event.isLog := by
  unfold fileMatches
  split
  · exact writesOnly_pure _
  · exact (writesOnly_log _ _).bind fun _ => writesOnly_pure _

/-- Looking sources up is silent. -/
theorem candidates_logs (source : Text) : (m.candidates source).WritesOnly Event.isLog := by
  unfold candidates
  simp only
  split
  · exact writesOnly_fail _
  · exact writesOnly_pure _
  · split
    · exact writesOnly_pure _
    · split
      · exact writesOnly_pure _
      · exact (writesOnly_log _ _).bind fun _ => writesOnly_pure _
      · exact writesOnly_fail _

theorem anyMatches_logs (paths : List Path) : (m.anyMatches paths).WritesOnly Event.isLog := by
  induction paths with
  | nil => exact writesOnly_pure _
  | cons path rest ih =>
    unfold anyMatches
    refine (m.fileMatches_logs path).bind fun hit => ?_
    cases hit with
    | true => exact (writesOnly_log _ _).bind fun _ => writesOnly_pure _
    | false => exact ih

/-- Finding out whether a source matches is silent. -/
theorem matchesSource_logs (source : Option Text) :
    (m.matchesSource source).WritesOnly Event.isLog := by
  unfold matchesSource
  split
  · exact writesOnly_pure _
  · exact writesOnly_pure _
  · exact (m.candidates_logs _).bind fun found => m.anyMatches_logs found

theorem addImportHits_logs (hits sources : List Text) :
    (m.addImportHits hits sources).WritesOnly Event.isLog := by
  induction sources generalizing hits with
  | nil => exact writesOnly_pure _
  | cons source rest ih =>
    unfold addImportHits
    split
    · exact ih hits
    · refine (m.matchesSource_logs _).bind fun hit => ?_
      cases hit with
      | true => exact ih _
      | false => exact ih hits

end SourceMatcher

/-- Loading rules is silent. -/
theorem RuleTables.load_logs (engine : Pattern.Engine) (tree : FileTree) (file : Option Text) :
    (load engine tree file).WritesOnly Event.isLog := by
  unfold load
  split
  · exact writesOnly_pure _
  · exact writesOnly_pure _
  · split
    · exact writesOnly_fail _
    · refine (writesOnly_ofExcept _).bind fun tables => ?_
      exact (writesOnly_log _ _).bind fun _ => writesOnly_pure _

namespace Disassembler

variable (d : Disassembler)

/-- Disassembling leaves a trace of itself and of the programs it starts, and tells nothing. -/
theorem run_silent (code : Bytes) : (d.run code).Silent := by
  intro event hevent
  rcases List.mem_cons.mp hevent with rfl | hevent
  · rfl
  · obtain ⟨call, -, rfl⟩ := List.mem_map.mp hevent
    rfl

theorem listing_untold (code : Bytecode) : (d.listing code).Silent := by
  unfold listing
  split
  · exact writesOnly_pure _
  · exact (writesOnly_ofExcept _).bind fun bytes => d.run_silent bytes

theorem listingOrNone_silent (code : Bytecode) (label : Text) :
    (d.listingOrNone code label).Silent := by
  refine (d.listing_untold code).recover fun fault => ?_
  split
  · exact (writesOnly_log _ _).silent.bind fun _ => writesOnly_pure _
  · exact writesOnly_fail _

theorem checkSide_silent (text : Option Text) (label : Text) : (d.checkSide text label).Silent := by
  unfold checkSide
  simp only
  split
  · exact writesOnly_pure _
  · refine (d.listingOrNone_silent _ _).bind fun stripped => ?_
    exact (d.listingOrNone_silent _ _).bind fun full => writesOnly_pure _

/-- Gathering evidence is silent. -/
theorem evidence_silent (path : Text) (runtime creation : Option Text) :
    (d.evidence path runtime creation).Silent := by
  unfold evidence
  refine (d.checkSide_silent _ _).bind fun runtimeHits => ?_
  refine (d.checkSide_silent _ _).bind fun creationHits => ?_
  simp only
  split
  · exact (writesOnly_log _ _).silent.bind fun _ => writesOnly_pure _
  · exact writesOnly_pure _

end Disassembler

namespace Scanner

variable (s : Scanner) (tree : FileTree)

/-- Looking at ABI and sources is silent. -/
theorem correlate_logs (artifact : Artifact) (evidence : Evidence) :
    (s.correlate tree artifact evidence).WritesOnly Event.isLog := by
  unfold correlate
  refine (Abi.addEntries_logs _ _ _ _).bind fun surface => ?_
  refine ((s.sources tree).matchesSource_logs _).bind fun sourceHit => ?_
  exact ((s.sources tree).addImportHits_logs _ _).bind fun importHits => writesOnly_pure _

/-- Assessing an artifact is silent. -/
theorem assess_silent (artifact : Artifact) : (s.assess tree artifact).Silent := by
  unfold assess
  refine (s.disassembler.evidence_silent _ _ _).bind fun evidence => ?_
  split
  · exact (writesOnly_log _ _).silent.bind fun _ => writesOnly_pure _
  · refine (s.correlate_logs tree artifact evidence).silent.bind fun record => ?_
    split
    · exact writesOnly_pure _
    · exact (writesOnly_log _ _).silent.bind fun _ => writesOnly_pure _

/-- Nothing is told on the way to the verdict on a file. -/
theorem scanFile_silent (path : Text) : (s.scanFile tree path).Silent := by
  unfold scanFile
  refine (tree.readArtifact_logs path).attempt.silent.bind fun read => ?_
  rcases read with fault | artifact
  · exact (writesOnly_log _ _).silent.bind fun _ => writesOnly_pure _
  · simp only
    split
    · exact (writesOnly_log _ _).silent.bind fun _ => writesOnly_pure _
    · refine (s.assess_silent tree artifact).attempt.bind fun assessed => ?_
      rcases assessed with fault | _ | record
      · exact (writesOnly_log _ _).silent.bind fun _ => writesOnly_pure _
      · exact writesOnly_pure _
      · exact writesOnly_pure _

-- ---------------------------------------------------------------------------
-- Scans
-- ---------------------------------------------------------------------------

/-- The records of the files at some paths. -/
def recordsOf (paths : List Path) : List Record :=
  paths.flatMap fun path => (s.verdict tree path.toText).1.toList

/-- The findings once the verdicts on the files at some paths are in. -/
def findingsAfter (found : Findings) (paths : List Path) : Findings :=
  paths.foldl (fun found path => found.add (s.verdict tree path.toText)) found

/-- The invariant of the loop: of the files gone through, the handing on of their records is
heard. -/
theorem heard_scanFiles (onRecord : Record → Run Unit) (found : Findings) (paths : List Path) :
    (s.scanFiles tree onRecord found paths).heard =
      (do
        Run.each onRecord (s.recordsOf tree paths)
        pure (s.findingsAfter tree found paths) : Run Findings).heard := by
  induction paths generalizing found with
  | nil => rfl
  | cons path rest ih =>
    -- one file: its verdict in silence, its record handed on, and then the others
    have hstep : (s.scanFiles tree onRecord found (path :: rest)).heard =
        (do
          Run.each onRecord (s.verdict tree path.toText).1.toList
          s.scanFiles tree onRecord (found.add (s.verdict tree path.toText)) rest).heard := by
      rw [scanFiles]
      exact (s.scanFile_silent tree path.toText).heard_bind (outcome_scanFile s tree path.toText) _
    have hrecords : s.recordsOf tree (path :: rest) =
        (s.verdict tree path.toText).1.toList ++ s.recordsOf tree rest := List.flatMap_cons
    rw [hstep, hrecords, each_append, bind_assoc, heard_bind, heard_bind, ih]
    rfl

/-- **What is heard of a scan.** Of a scan that finds its root, nothing is heard but the handing
on of the records, in order, and how it ends depends on nothing else. -/
theorem heard_scan (onRecord : Record → Run Unit) {root : Text} {paths : List Path}
    (hpaths : (tree.artifacts root).outcome = .ok paths) :
    (s.scan tree root onRecord).heard =
      (do
        Run.each onRecord (s.recordsOf tree paths)
        pure (s.findingsAfter tree { root, mode := s.mode } paths) : Run Findings).heard := by
  -- the entry about the whole scan is logged and not heard
  rw [scan, (tree.artifacts_logs root).silent.heard_bind hpaths, heard_bind, heard_scanFiles]
  exact bind_pure _

end Scanner
end DelegateAudit

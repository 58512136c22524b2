import DelegateAudit.CommandLine.Scan
import DelegateAudit.Proofs.Accounting
import DelegateAudit.Proofs.Parameters
import DelegateAudit.Proofs.Printing

/-!
# DelegateAudit — what becomes of a bad rule file

A rule file that cannot be used is meant to end with a fault that says so (`Fault.rules`), and
the scanning program turns this fault into the exit status 1. Some bad files end with another
fault, which nothing catches. We say which ones: `Escapes` follows a fault that is not put down
to the rule file through a computation, and every step of loading either has no such fault of
its own or has exactly one:

* a path that no file system takes, bytes that are no UTF-8, a number with too many digits and
  lists within lists beyond measure are noticed while reading, where only two kinds of trouble are
  put down to the file;
* a number, a boolean or a null in place of the groups of types is gone through without looking;
* a pattern that the engine breaks down on is no malformed pattern, be it that it counts beyond all
  bounds, nests too deep or has flags that contradict each other.

All this holds for every pattern engine, so it does not matter here how much of the written form of
patterns an engine knows.

Main results:

* `Escapes.bind_iff` — a fault gets out of a sequence where it gets out of a step.
* `RuleTables.escapes_ofValue_iff`, `RuleTables.escapes_load_iff` — the ways out, from the content
  of the file and in all.
* `CommandLine.scanEnding` — the five ways in which the scanning program ends.
* `CommandLine.rules_settle_iff` — when loading ends with tables or a fault of the rule file, and
  how the scanning program ends.
-/

namespace DelegateAudit

open Json

-- ---------------------------------------------------------------------------
-- Faults that get out
-- ---------------------------------------------------------------------------

/-- The computation ends with this fault, which is not put down to the rule file. -/
def Escapes {α : Type} (outcome : Except Fault α) (fault : Fault) : Prop :=
  outcome = .error fault ∧ ∀ cause, fault ≠ .rules cause

namespace Escapes

variable {α β : Type} {fault : Fault}

@[simp] theorem not_ok {a : α} : ¬ Escapes (.ok a) fault := by
  rintro ⟨h, -⟩
  cases h

@[simp] theorem not_rules {cause : RuleFault} :
    ¬ Escapes (.error (.rules cause) : Except Fault α) fault := by
  rintro ⟨h, hother⟩
  cases h
  exact hother cause rfl

theorem error_iff {other : Fault} (hother : ∀ cause, other ≠ .rules cause) :
    Escapes (.error other : Except Fault α) fault ↔ fault = other := by
  constructor
  · rintro ⟨h, -⟩
    exact (Except.error.inj h).symm
  · rintro rfl
    exact ⟨rfl, hother⟩

/-- A fault gets out of a sequence if it gets out of the first step, or the first step ends with a
value and it gets out of what follows. -/
theorem bind_iff {x : Except Fault α} {f : α → Except Fault β} :
    Escapes (x >>= f) fault ↔ Escapes x fault ∨ ∃ a, x = .ok a ∧ Escapes (f a) fault := by
  cases x with
  | error cause => simp [Escapes, bind, Except.bind]
  | ok a => simp [Escapes, bind, Except.bind]

/-- Without a fault that gets out there is a value or a fault of the rule file. -/
theorem settled_iff {outcome : Except Fault α} :
    ((∃ a, outcome = .ok a) ∨ ∃ cause, outcome = .error (.rules cause)) ↔
      ∀ fault, ¬ Escapes outcome fault := by
  constructor
  · rintro (⟨a, rfl⟩ | ⟨cause, rfl⟩) fault
    · exact not_ok
    · exact not_rules
  · intro hnone
    cases outcome with
    | ok a => exact .inl ⟨a, rfl⟩
    | error fault =>
      by_contra hunsettled
      refine hnone fault ⟨rfl, fun cause hcause => hunsettled ?_⟩
      exact .inr ⟨cause, by rw [hcause]⟩

end Escapes

-- ---------------------------------------------------------------------------
-- Lists of strings and groups of types
-- ---------------------------------------------------------------------------

/-- A computation that undoes a function, done for every item of a list, undoes it on lists. -/
theorem mapM_eq_ok_iff_eq_map {α β ε : Type} {f : α → Except ε β} {g : β → α}
    (hf : ∀ x y, f x = .ok y ↔ x = g y) {xs : List α} {ys : List β} :
    xs.mapM f = .ok ys ↔ xs = ys.map g := by
  rw [mapM_eq_ok_iff]
  induction xs generalizing ys with
  | nil => simp [eq_comm (a := [])]
  | cons x rest ih =>
    cases ys with
    | nil => simp
    | cons y more => rw [List.map_cons, List.map_cons, List.map_cons, List.cons.injEq,
        List.cons.injEq, hf, ih]

theorem strings?_eq_some_iff {v : Value} {texts : List Text} :
    strings? v = some texts ↔ v = .arr (texts.map .str) := by
  have hitems : ∀ items : List Value,
      items.mapM Value.text? = some texts ↔ items = texts.map .str := by
    intro items
    induction items generalizing texts with
    | nil =>
      rw [List.mapM_nil, eq_comm (a := []), List.map_eq_nil_iff]
      exact ⟨fun h => (Option.some.inj h).symm, fun h => by rw [h]; rfl⟩
    | cons item rest ih =>
      rw [List.mapM_cons]
      constructor
      · intro h
        obtain ⟨t, ht, h⟩ := Option.bind_eq_some_iff.mp h
        obtain ⟨more, hmore, h⟩ := Option.bind_eq_some_iff.mp h
        cases h
        rw [List.map_cons, ← ih.mp hmore]
        cases item <;> cases ht
        rfl
      · intro h
        cases texts with
        | nil => cases h
        | cons t more =>
          rw [List.map_cons, List.cons.injEq] at h
          obtain ⟨rfl, hrest⟩ := h
          rw [ih.mpr hrest]
          rfl
  cases v <;> simp [strings?, hitems]

/-- What stands under the key, if anything does, is a list of strings. -/
def ListsStrings (part : Members) (key : Text) : Prop :=
  ∀ v, part.get? key = some v → ∃ texts : List Text, v = .arr (texts.map .str)

/-- What stands under the key of the groups, if anything does, is a list of lists of strings. An
empty object passes for an empty list. -/
def ListsGroups (part : Members) : Prop :=
  ∀ v, part.get? groupsKey = some v →
    v = .obj [] ∨ ∃ groups : List (List Text), v = .arr (groups.map fun g => .arr (g.map .str))

section Sections

variable {part : Members} {key : Text} {base : List Text} {fault : Fault} {v : Value}

/-- A list of strings is read exactly if it is one, or missing. -/
theorem stringsAt_eq_ok_iff (base : List Text) :
    (∃ texts, stringsAt part key base = .ok texts) ↔ ListsStrings part key := by
  unfold stringsAt ListsStrings
  cases part.get? key with
  | none => simp
  | some v =>
    have hlist : (∃ texts : List Text, v = .arr (texts.map .str)) ↔ (strings? v).isSome = true := by
      rw [Option.isSome_iff_exists]
      exact exists_congr fun texts => strings?_eq_some_iff.symm
    simp only [Option.some.injEq, forall_eq', hlist]
    cases strings? v <;> simp

theorem not_escapes_stringsAt : ¬ Escapes (stringsAt part key base) fault := by
  unfold stringsAt
  cases part.get? key with
  | none => exact Escapes.not_ok
  | some v =>
    simp only
    cases strings? v with
    | some texts => exact Escapes.not_ok
    | none => exact Escapes.not_rules

/-- Groups get out only if there is nothing to go through. -/
theorem escapes_groupsOf_iff :
    Escapes (groupsOf v) fault ↔ v.elements? = none ∧ fault = .notIterable v.kindName := by
  unfold groupsOf
  cases v.elements? with
  | none => rw [Escapes.error_iff (fun cause h => by cases h), and_iff_right rfl]
  | some groups =>
    refine iff_of_false ?_ (by simp)
    rintro ⟨hfault, hother⟩
    obtain ⟨_, group, _, -, -, hgroup⟩ := mapM_eq_error_iff.mp hfault
    split at hgroup
    · cases hgroup
    · cases hgroup
      exact hother _ rfl

/-- Groups are read from a list of lists of strings, and from an empty object. -/
theorem groupsOf_eq_ok_iff (hv : v.text? = none) :
    (∃ groups, groupsOf v = .ok groups) ↔
      v = .obj [] ∨
        ∃ groups : List (List Text), v = .arr (groups.map fun g => .arr (g.map .str)) := by
  cases v with
  | null | bool b | int n | float x => simp [groupsOf, Value.elements?]
  | str t => cases hv
  | arr items =>
    have hitems : ∀ groups, groupsOf (.arr items) = .ok groups ↔
        items = groups.map fun g => .arr (g.map .str) := by
      intro groups
      refine mapM_eq_ok_iff_eq_map ?_
      intro group texts
      rw [← strings?_eq_some_iff]
      cases strings? group <;> simp
    simp [hitems]
  | obj members =>
    cases members with
    | nil => exact iff_of_true ⟨[], rfl⟩ (.inl rfl)
    | cons first rest =>
      -- a key is a string, and no list of strings
      have hkey : groupsOf (.obj (first :: rest)) = .error (.rules (.notStrings groupsKey)) := rfl
      simp [hkey]

end Sections

namespace ForwarderRules

variable {base : ForwarderRules} {part : Members} {fault : Fault}

/-- The table of a section, one step after the other, if the groups are no string. -/
theorem override_eq (h : (part.get? groupsKey).bind Value.text? = none) :
    base.override part =
      (stringsAt part "names" base.names >>= fun names =>
        stringsAt part "exact_signatures" base.exactSignatures >>= fun signatures =>
          (match part.get? groupsKey with
            | none => pure base.groups
            | some v => groupsOf v) >>= fun groups =>
              .ok ⟨textAt part "version" base.version, textSet names, textSet signatures,
                groups⟩) := by
  unfold override
  simp only [h, Option.isSome_none, Bool.false_eq_true, if_false]
  cases part.get? groupsKey <;> rfl

/-- A string in place of the groups is noticed. -/
theorem override_eq_error {t : Text} (h : (part.get? groupsKey).bind Value.text? = some t) :
    base.override part = .error (.rules .notTypeLists) := by
  unfold override
  simp only [h, Option.isSome_some, if_true]
  rfl

theorem escapes_override_iff :
    Escapes (base.override part) fault ↔
      ListsStrings part "names" ∧ ListsStrings part "exact_signatures" ∧
        ∃ v, part.get? groupsKey = some v ∧ v.elements? = none ∧
          fault = .notIterable v.kindName := by
  cases hstring : (part.get? groupsKey).bind Value.text? with
  | some t =>
    rw [override_eq_error hstring]
    refine iff_of_false Escapes.not_rules ?_
    rintro ⟨-, -, v, hv, hatom, -⟩
    -- a string has its letters to go through
    rw [hv] at hstring
    cases v <;> cases hstring
    cases hatom
  | none =>
    rw [override_eq hstring, ← stringsAt_eq_ok_iff base.names,
      ← stringsAt_eq_ok_iff base.exactSignatures]
    simp only [Escapes.bind_iff, not_escapes_stringsAt, Escapes.not_ok, and_false, exists_false,
      or_false, false_or]
    cases part.get? groupsKey with
    | none => simp [pure, Except.pure]
    | some v => simp [escapes_groupsOf_iff, exists_and_right]

/-- A forwarder section is read exactly if its three lists are what they should be. -/
theorem override_eq_ok_iff :
    (∃ rules, base.override part = .ok rules) ↔
      ListsStrings part "names" ∧ ListsStrings part "exact_signatures" ∧ ListsGroups part := by
  unfold ListsGroups
  cases hstring : (part.get? groupsKey).bind Value.text? with
  | some t =>
    rw [override_eq_error hstring]
    refine iff_of_false ?_ ?_
    · rintro ⟨rules, h⟩
      cases h
    · rintro ⟨-, -, hgroups⟩
      obtain ⟨v, hv, ht⟩ := Option.bind_eq_some_iff.mp hstring
      rcases hgroups v hv with rfl | ⟨groups, rfl⟩
      · cases ht
      · cases ht
  | none =>
    rw [override_eq hstring, ← stringsAt_eq_ok_iff base.names,
      ← stringsAt_eq_ok_iff base.exactSignatures]
    simp only [Run.except_bind_eq_ok]
    cases hv : part.get? groupsKey with
    | none => simp [pure, Except.pure]
    | some v =>
      have htext : v.text? = none := by simpa [hv] using hstring
      simp only [Option.some.injEq, forall_eq', ← groupsOf_eq_ok_iff htext]
      constructor
      · rintro ⟨_, names, hnames, signatures, hsignatures, groups, hgroups, -⟩
        exact ⟨⟨names, hnames⟩, ⟨signatures, hsignatures⟩, groups, hgroups⟩
      · rintro ⟨⟨names, hnames⟩, ⟨signatures, hsignatures⟩, groups, hgroups⟩
        exact ⟨_, names, hnames, signatures, hsignatures, groups, hgroups, rfl⟩

end ForwarderRules

-- ---------------------------------------------------------------------------
-- Patterns
-- ---------------------------------------------------------------------------

/-- The reader breaks down on the first of these patterns that it cannot read. -/
def BreaksDown (read : Pattern.Reader) (written : List Text) (cause : Pattern.Breakdown) : Prop :=
  ∃ front t back, written = front ++ t :: back ∧ (∀ u ∈ front, ∃ p, read u = .ok p) ∧
    read t = .error (.breakdown cause)

namespace SourcePatterns

/-- The first pattern that is not read decides, and it has to be one the engine breaks down on. -/
theorem escapes_ofWritten_iff {read : Pattern.Reader} {version : Text} {written : List Text}
    {fault : Fault} :
    Escapes (ofWritten read version written) fault ↔
      ∃ cause, BreaksDown read written cause ∧ fault = .pattern cause := by
  unfold ofWritten BreaksDown
  simp only [← mapM_eq_error_iff]
  rcases written.mapM read with (refusal | cause) | patterns
  · simp
  · rw [Escapes.error_iff (fun cause h => by cases h)]
    simp
  · simp

/-- An engine does not break down on the patterns it has to know. -/
theorem standardWritten_fine (engine : Pattern.Engine) (cause : Pattern.Breakdown) :
    ¬ BreaksDown engine.read standardWritten cause := by
  unfold BreaksDown
  rw [← mapM_eq_error_iff, engine.knowsStandard]
  simp

theorem escapes_override_iff {engine : Pattern.Engine} {part : Members} {fault : Fault} :
    Escapes (standard.override engine.read part) fault ↔
      ∃ written cause, part.get? "patterns" = some (.arr (written.map .str)) ∧
        BreaksDown engine.read written cause ∧ fault = .pattern cause := by
  unfold override
  rw [Escapes.bind_iff, or_iff_right not_escapes_stringsAt]
  simp only [escapes_ofWritten_iff]
  unfold stringsAt
  cases part.get? "patterns" with
  | none =>
    have hfine : ∀ cause, ¬ BreaksDown engine.read standard.written cause :=
      standardWritten_fine engine
    simp [hfine]
  | some v =>
    simp only [Option.some.injEq, ← strings?_eq_some_iff]
    cases strings? v <;> simp

end SourcePatterns

-- ---------------------------------------------------------------------------
-- A file
-- ---------------------------------------------------------------------------

/-- The section of a rule file under a key. -/
inductive RuleSection (data : Members) (key : Text) : Members → Prop
  | missing (h : data.get? key = none) : RuleSection data key []
  | nothing {v : Value} (h : data.get? key = some v) (hv : v.isTruthy = false) :
      RuleSection data key []
  | object {part : Members} (h : data.get? key = some (.obj part)) : RuleSection data key part

/-- A section is an object, or counts as empty if it is missing or counts as nothing. -/
theorem sectionOf_eq_ok_iff {data : Members} {key file : Text} {part : Members} :
    sectionOf data key file = .ok part ↔ RuleSection data key part := by
  unfold sectionOf
  constructor
  · intro h
    cases hv : data.get? key with
    | none =>
      rw [hv] at h
      cases h
      exact .missing hv
    | some v =>
      simp only [hv] at h
      cases htruthy : v.isTruthy with
      | false =>
        simp only [htruthy, Bool.not_false, if_true] at h
        cases h
        exact .nothing hv htruthy
      | true =>
        simp only [htruthy, Bool.not_true, Bool.false_eq_true, if_false] at h
        cases v <;> cases h
        exact .object hv
  · rintro (h | ⟨h, hv⟩ | h)
    · simp [h]
    · simp [h, hv]
    · -- an empty object overrides as little as a missing one
      cases part <;> simp [h, Value.isTruthy]

theorem not_escapes_sectionOf {data : Members} {key file : Text} {fault : Fault} :
    ¬ Escapes (sectionOf data key file) fault := by
  unfold sectionOf
  split
  · exact Escapes.not_ok
  · split
    · exact Escapes.not_ok
    · split
      · exact Escapes.not_ok
      · exact Escapes.not_rules

namespace RuleTables

/-- The faults that get out because of what stands in a rule file. -/
inductive ContentEscape (engine : Pattern.Engine) (data : Members) : Fault → Prop
  /-- A number, a boolean or a null in place of the groups, if the other lists are lists. -/
  | groups {forwarder sources : Members} {v : Value}
      (hforwarder : RuleSection data "forwarder" forwarder)
      (hsources : RuleSection data "source_patterns" sources)
      (hnames : ListsStrings forwarder "names")
      (hsignatures : ListsStrings forwarder "exact_signatures")
      (hgroups : forwarder.get? groupsKey = some v) (hatom : v.elements? = none) :
      ContentEscape engine data (.notIterable v.kindName)
  /-- A pattern that the engine breaks down on, if the forwarder section is fine. -/
  | pattern {forwarder sources : Members} {written : List Text} {cause : Pattern.Breakdown}
      (hforwarder : RuleSection data "forwarder" forwarder)
      (hsources : RuleSection data "source_patterns" sources)
      (hnames : ListsStrings forwarder "names")
      (hsignatures : ListsStrings forwarder "exact_signatures")
      (hgroups : ListsGroups forwarder)
      (hwritten : sources.get? "patterns" = some (.arr (written.map .str)))
      (hbreaks : BreaksDown engine.read written cause) :
      ContentEscape engine data (.pattern cause)

/-- What the content of a rule file escapes with. -/
theorem escapes_ofValue_iff {engine : Pattern.Engine} {file : Text} {data : Members}
    {fault : Fault} :
    Escapes (ofValue engine.read file (.obj data)) fault ↔ ContentEscape engine data fault := by
  unfold ofValue
  simp only [Escapes.bind_iff, not_escapes_sectionOf, sectionOf_eq_ok_iff, false_or,
    ForwarderRules.escapes_override_iff, SourcePatterns.escapes_override_iff, pure, Except.pure,
    Escapes.not_ok, and_false, exists_false, or_false]
  constructor
  · rintro ⟨forwarder, hforwarder, sources, hsources,
      ⟨hnames, hsignatures, v, hgroups, hatom, rfl⟩ |
      ⟨rules, hrules, written, cause, hwritten, hbreaks, rfl⟩⟩
    · exact .groups hforwarder hsources hnames hsignatures hgroups hatom
    · obtain ⟨hnames, hsignatures, hgroups⟩ := ForwarderRules.override_eq_ok_iff.mp ⟨rules, hrules⟩
      exact .pattern hforwarder hsources hnames hsignatures hgroups hwritten hbreaks
  · intro h
    cases h with
    | groups hforwarder hsources hnames hsignatures hgroups hatom =>
      exact ⟨_, hforwarder, _, hsources, .inl ⟨hnames, hsignatures, _, hgroups, hatom, rfl⟩⟩
    | pattern hforwarder hsources hnames hsignatures hgroups hwritten hbreaks =>
      obtain ⟨rules, hrules⟩ := ForwarderRules.override_eq_ok_iff.mpr ⟨hnames, hsignatures, hgroups⟩
      exact ⟨_, hforwarder, _, hsources, .inr ⟨rules, hrules, _, _, hwritten, hbreaks, rfl⟩⟩

end RuleTables

-- ---------------------------------------------------------------------------
-- Reading
-- ---------------------------------------------------------------------------

section Reading

variable {tree : FileTree} {file : Text}

theorem FileTree.read_eq_unencodable_iff {run : BadRun} :
    tree.read file = .error (.unencodable run) ↔ unencodable? file = some run := by
  unfold read locate
  cases unencodable? file with
  | some found => simp
  | none =>
    by_cases hnul : .scalar '\x00' ∈ file
    · simp [hnul]
    · rcases tree.walk file with error | (_ | _ | _) <;> simp [hnul, Except.mapError]

theorem FileTree.read_eq_nul_iff :
    tree.read file = .error .nul ↔ unencodable? file = none ∧ .scalar '\x00' ∈ file := by
  unfold read locate
  cases unencodable? file with
  | some found => simp
  | none =>
    by_cases hnul : .scalar '\x00' ∈ file
    · simp [hnul]
    · rcases tree.walk file with error | (_ | _ | _) <;> simp [hnul, Except.mapError]

/-- The faults of reading a file that are not put down to it. -/
inductive ReadFault.Stray (tree : FileTree) (file : Text) : ReadFault → Prop
  | unencodable {run : BadRun} (h : FileTree.unencodable? file = some run) :
      Stray tree file (.path (.unencodable run))
  | nul (hpath : FileTree.unencodable? file = none) (h : .scalar '\x00' ∈ file) :
      Stray tree file (.path .nul)
  | encoding {bytes : Bytes} {fault : Utf8.Fault} (hread : tree.read file = .ok bytes)
      (h : bytes.decodeUtf8 = .error fault) : Stray tree file (.encoding fault)
  | digits {bytes : Bytes} {text : Text} {n : Nat} (hread : tree.read file = .ok bytes)
      (htext : bytes.decodeUtf8 = .ok text)
      (h : Json.parse tree.limits.ruleFile text.unifyNewlines = .error (.tooManyDigits n)) :
      Stray tree file (.json (.tooManyDigits n))
  | depth {bytes : Bytes} {text : Text} {object : Bool} (hread : tree.read file = .ok bytes)
      (htext : bytes.decodeUtf8 = .ok text)
      (h : Json.parse tree.limits.ruleFile text.unifyNewlines = .error (.tooDeep object)) :
      Stray tree file (.json (.tooDeep object))

/-- What reading a rule file escapes with: the faults that are not converted. -/
theorem ReadFault.stray_iff {cause : ReadFault} :
    Stray tree file cause ↔
      tree.readJson tree.limits.ruleFile file = .error cause ∧ cause.isRuleFault = false := by
  unfold FileTree.readJson
  constructor
  · intro h
    cases h with
    | unencodable h => simp [FileTree.read_eq_unencodable_iff.mpr h, isRuleFault]
    | nul hpath h => simp [FileTree.read_eq_nul_iff.mpr ⟨hpath, h⟩, isRuleFault]
    | encoding hread h => simp [hread, h, isRuleFault]
    | digits hread htext h => simp [hread, htext, h, Except.mapError, isRuleFault]
    | depth hread htext h => simp [hread, htext, h, Except.mapError, isRuleFault]
  · rintro ⟨h, hrule⟩
    -- along the steps of reading: the path, the bytes, the text
    cases hread : tree.read file with
    | error path =>
      simp only [hread] at h
      cases h
      cases path with
      | system fault => cases hrule
      | nul =>
        obtain ⟨hpath, hnul⟩ := FileTree.read_eq_nul_iff.mp hread
        exact .nul hpath hnul
      | unencodable run => exact .unencodable (FileTree.read_eq_unencodable_iff.mp hread)
    | ok bytes =>
      simp only [hread] at h
      cases htext : bytes.decodeUtf8 with
      | error fault =>
        simp only [htext] at h
        cases h
        exact .encoding hread htext
      | ok text =>
        simp only [htext] at h
        cases hparse : Json.parse tree.limits.ruleFile text.unifyNewlines with
        | ok data =>
          rw [hparse] at h
          cases h
        | error fault =>
          rw [hparse] at h
          cases h
          cases fault with
          | malformed complaint line column offset => cases hrule
          | tooManyDigits n => exact .digits hread htext hparse
          | tooDeep object => exact .depth hread htext hparse

end Reading

namespace RuleTables

variable {engine : Pattern.Engine} {tree : FileTree} {file : Text} {fault : Fault}

/-- The faults that get out of loading a rule file. -/
inductive LoadEscape (engine : Pattern.Engine) (tree : FileTree) (file : Text) : Fault → Prop
  | reading {cause : ReadFault} (h : ReadFault.Stray tree file cause) :
      LoadEscape engine tree file (.read cause)
  | content {data : Members} {fault : Fault}
      (hdata : tree.readJson tree.limits.ruleFile file = .ok (.obj data))
      (h : ContentEscape engine data fault) : LoadEscape engine tree file fault

/-- Tables are loaded in two steps: reading a value, and reading tables off it. -/
theorem outcome_load (hfile : file ≠ []) :
    (load engine tree (some file)).outcome =
      match tree.readJson tree.limits.ruleFile file with
      | .error cause =>
        .error (if cause.isRuleFault then .rules (.unreadable file cause) else .read cause)
      | .ok data => ofValue engine.read file data := by
  obtain ⟨first, rest, rfl⟩ := List.exists_cons_of_ne_nil hfile
  unfold load
  simp only
  cases tree.readJson tree.limits.ruleFile (first :: rest) with
  | error cause => rfl
  | ok data =>
    simp only [Run.outcome_bind, Run.outcome_ofExcept]
    cases ofValue engine.read (first :: rest) data <;> rfl

/-- The ways out of loading a rule file. -/
theorem escapes_load_iff :
    Escapes (load engine tree (some file)).outcome fault ↔
      LoadEscape engine tree file fault := by
  by_cases hfile : file = []
  · subst hfile
    -- nothing is read, and nothing could be
    have hnothing : tree.readJson tree.limits.ruleFile [] =
        .error (.path (.system ⟨.noEntry, []⟩)) := rfl
    refine iff_of_false Escapes.not_ok fun h => ?_
    cases h with
    | reading h =>
      obtain ⟨hread, hrule⟩ := ReadFault.stray_iff.mp h
      cases hnothing.symm.trans hread
      cases hrule
    | content hdata h => cases hnothing.symm.trans hdata
  rw [outcome_load hfile]
  constructor
  · intro h
    cases hread : tree.readJson tree.limits.ruleFile file with
    | error cause =>
      simp only [hread] at h
      cases hrule : cause.isRuleFault with
      | true =>
        rw [hrule, if_pos rfl] at h
        exact absurd h Escapes.not_rules
      | false =>
        rw [hrule, if_neg Bool.false_ne_true] at h
        obtain ⟨hfault, -⟩ := h
        cases hfault
        exact .reading (ReadFault.stray_iff.mpr ⟨hread, hrule⟩)
    | ok data =>
      simp only [hread] at h
      cases data with
      | obj members => exact .content hread (escapes_ofValue_iff.mp h)
      | null | bool b | int n | float x | str t | arr items => exact absurd h Escapes.not_rules
  · intro h
    cases h with
    | reading h =>
      obtain ⟨hread, hrule⟩ := ReadFault.stray_iff.mp h
      rw [hread]
      simp only [hrule, Bool.false_eq_true, if_false]
      exact ⟨rfl, fun cause h => by cases h⟩
    | content hdata h =>
      rw [hdata]
      exact escapes_ofValue_iff.mpr h

end RuleTables

-- ---------------------------------------------------------------------------
-- The scanning program
-- ---------------------------------------------------------------------------

namespace CommandLine

/-- Printing adds nothing to how a scan ends. -/
theorem outcome_scanAndPrint (scanner : Scanner) (tree : FileTree) (root : Text) (json : Bool) :
    (scanAndPrint scanner tree root json).outcome =
      (scanner.scan tree root fun _ => pure ()).outcome.map fun _ => () := by
  unfold scanAndPrint
  cases json with
  | true =>
    simp only [if_true, Run.outcome_bind, Run.outcome_ofExcept]
    cases (scanner.scan tree root fun _ => pure ()).outcome <;> rfl
  | false =>
    have heach := fun texts => Run.outcome_each Run.outcome_print texts
    have hsame : (scanner.scan tree root fun record =>
        Run.each Run.print (Report.recordLines record)).outcome =
          (scanner.scan tree root fun _ => pure ()).outcome := by
      rw [Scanner.outcome_scan fun record => heach _, Scanner.outcome_scan fun _ => rfl]
    simp only [Bool.false_eq_true, if_false, Run.outcome_bind, heach, hsame]
    cases (scanner.scan tree root fun _ => pure ()).outcome <;> rfl

variable {w : Surroundings} {o : ScanOptions}

/-- Where the scanning program takes its rules from. -/
def rulesPath (w : Surroundings) (o : ScanOptions) : Option Text :=
  (given? o.rules).or w.settings.rulesFile

/-- Where it looks for artifacts. -/
def artifactRoot (w : Surroundings) (o : ScanOptions) : Text :=
  (given? o.artifactDir).getD w.settings.artifactDir

/-- The scanning program ends with status 1 for a fault of the rule file, with any other fault of
loading, or as the scan ends. -/
theorem outcome_runScan (hcast : w.tools.has w.settings.castBin = true) :
    ∃ scanner : RuleTables → Scanner, (runScan w o).outcome =
      match (RuleTables.load w.engine w.tree (rulesPath w o)).outcome with
      | .error (.rules _) => .ok 1
      | .error fault => .error fault
      | .ok rules =>
        ((scanner rules).scan w.tree (artifactRoot w o) fun _ => pure ()).outcome.map
          fun _ => 0 := by
  refine ⟨fun rules => {
    disassembler := castDisassembler w.tools w.settings.castBin
      (TimeLimit.fraction w.settings.disassembleTimeout)
    sourceRoot := (given? o.sourceRoot).getD w.settings.sourceRoot
    rules
    mode := o.effectiveMode }, ?_⟩
  unfold runScan rulesPath artifactRoot
  simp only [hcast, Bool.not_true, Bool.false_eq_true, if_false, Run.outcome_attempt_bind]
  generalize (RuleTables.load w.engine w.tree _).outcome = loaded
  rcases loaded with fault | rules
  · cases fault <;> rfl
  · simp only [Run.outcome_bind, outcome_scanAndPrint]
    generalize (Scanner.scan _ w.tree _ _).outcome = scanned
    cases scanned <;> rfl

/-- Until there are rules, the scanning program does nothing but speak about itself. -/
theorem runScan_aside (h : ∀ rules, (RuleTables.load w.engine w.tree (rulesPath w o)).outcome ≠
    .ok rules) : (runScan w o).WritesOnly Event.isAside := by
  have hnotice : ∀ (t : Text) (status : Nat),
      (do Run.notice t; pure status : Run Nat).WritesOnly Event.isAside :=
    fun t status => (Run.writesOnly_emit rfl).bind fun _ => Run.writesOnly_pure _
  have hload : (RuleTables.load w.engine w.tree (rulesPath w o)).attempt.WritesOnly
      Event.isAside :=
    (RuleTables.load_logs _ _ _).attempt.of_logs fun _ _ => rfl
  unfold runScan
  simp only
  split
  · exact hnotice _ _
  · refine hload.bind_of_ok (Run.outcome_attempt _) ?_
    cases hfault : (RuleTables.load w.engine w.tree (rulesPath w o)).outcome with
    | ok rules => exact absurd hfault (h rules)
    | error fault =>
      cases fault with
      | rules cause => exact hnotice _ _
      | _ => exact Run.writesOnly_fail _

/-- How the run of the scanning program can end. -/
inductive ScanEnding (w : Surroundings) (o : ScanOptions) : Prop
  | toolMissing (htool : w.tools.has w.settings.castBin = false)
      (hend : (runScan w o).outcome = .ok 127) (haside : (runScan w o).WritesOnly Event.isAside)
  | badRules (htool : w.tools.has w.settings.castBin = true) (cause : RuleFault)
      (hload : (RuleTables.load w.engine w.tree (rulesPath w o)).outcome = .error (.rules cause))
      (hend : (runScan w o).outcome = .ok 1) (haside : (runScan w o).WritesOnly Event.isAside)
  | strayFault (htool : w.tools.has w.settings.castBin = true) (fault : Fault)
      (hload : (RuleTables.load w.engine w.tree (rulesPath w o)).outcome = .error fault)
      (hother : ∀ cause, fault ≠ .rules cause) (hend : (runScan w o).outcome = .error fault)
      (haside : (runScan w o).WritesOnly Event.isAside)
  | unlistable (htool : w.tools.has w.settings.castBin = true) (rules : RuleTables)
      (hload : (RuleTables.load w.engine w.tree (rulesPath w o)).outcome = .ok rules)
      (fault : Fault) (hlist : (w.tree.artifacts (artifactRoot w o)).outcome = .error fault)
      (hend : (runScan w o).outcome = .error fault)
  | scanned (htool : w.tools.has w.settings.castBin = true) (rules : RuleTables)
      (hload : (RuleTables.load w.engine w.tree (rulesPath w o)).outcome = .ok rules)
      (hlist : ∀ fault, ¬ w.tree.Unlistable (artifactRoot w o) fault)
      (hend : (runScan w o).outcome = .ok 0)

/-- Every run of the scanning program ends in one of these ways. -/
theorem scanEnding (w : Surroundings) (o : ScanOptions) : ScanEnding w o := by
  cases htool : w.tools.has w.settings.castBin with
  | false =>
    have hrun : runScan w o = (do
        Run.notice ("Error: foundry '" ++ w.settings.castBin ++ "' not found. " ++ castHint)
        pure toolMissingStatus) := by
      unfold runScan
      simp only [htool, Bool.not_false, if_true]
    refine .toolMissing htool ?_ ?_
    · rw [hrun]
      rfl
    · rw [hrun]
      exact (Run.writesOnly_emit rfl).bind fun _ => Run.writesOnly_pure _
  | true =>
    obtain ⟨scanner, hend⟩ := outcome_runScan (o := o) htool
    cases hload : (RuleTables.load w.engine w.tree (rulesPath w o)).outcome with
    | error fault =>
      have haside : (runScan w o).WritesOnly Event.isAside := by
        refine runScan_aside fun rules h => ?_
        rw [hload] at h
        cases h
      rw [hload] at hend
      by_cases hrules : ∃ cause, fault = .rules cause
      · obtain ⟨cause, rfl⟩ := hrules
        exact .badRules htool cause hload hend haside
      · have hother : ∀ cause, fault ≠ .rules cause := fun cause h => hrules ⟨cause, h⟩
        refine .strayFault htool fault hload hother (hend.trans ?_) haside
        cases fault with
        | rules cause => exact absurd rfl (hother cause)
        | _ => rfl
    | ok rules =>
      rw [hload] at hend
      cases hscan : ((scanner rules).scan w.tree (artifactRoot w o) fun _ => pure ()).outcome with
      | error fault =>
        simp only [hscan] at hend
        exact .unlistable htool rules hload fault
          ((Scanner.scan_eq_error_iff fun _ => rfl).mp hscan) hend
      | ok found =>
        simp only [hscan] at hend
        exact .scanned htool rules hload
          ((Scanner.exists_scan_iff fun _ => rfl).mp ⟨found, hscan⟩) hend

/-- How the scanning program ends once it has its rules: as listing the artifacts ends, unless
something it prints on the way is not taken. -/
inductive ScanFault (w : Surroundings) (o : ScanOptions) : Fault → Prop
  | unlistable {fault : Fault} (h : (w.tree.artifacts (artifactRoot w o)).outcome = .error fault)
      (htakes : w.sink.Takes (runScan w o).prints) : ScanFault w o fault
  | unprintable {reason : Text} (h : w.sink.FirstRefused (runScan w o).prints reason) :
      ScanFault w o (.unprintable reason)

theorem scanFault_iff {fault : Fault} :
    ScanFault w o fault ↔
      ((w.tree.artifacts (artifactRoot w o)).outcome = .error fault ∧
          w.sink.Takes (runScan w o).prints) ∨
        ∃ reason, w.sink.FirstRefused (runScan w o).prints reason ∧
          fault = .unprintable reason := by
  constructor
  · intro h
    cases h with
    | unlistable h htakes => exact .inl ⟨h, htakes⟩
    | unprintable h => exact .inr ⟨_, h, rfl⟩
  · rintro (⟨h, htakes⟩ | ⟨reason, h, rfl⟩)
    · exact .unlistable h htakes
    · exact .unprintable h

/-- **What becomes of a rule file.** Loading ends with tables or with a fault of the rule file
unless one of the other faults gets out, and then it ends with that one. The scanning program,
given a disassembler and words it accepts, ends with status 1 exactly for a fault of the rule file.
It ends with a fault if one gets out of loading, or if, with its rules loaded, it cannot list the
artifacts or something it prints is not taken. Otherwise it ends with status 0 or 1. -/
theorem rules_settle_iff (w : Surroundings) (file : Text) :
    (((∃ tables, (RuleTables.load w.engine w.tree (some file)).outcome = .ok tables) ∨
          ∃ cause, (RuleTables.load w.engine w.tree (some file)).outcome =
            .error (.rules cause)) ↔
        ∀ fault, ¬ RuleTables.LoadEscape w.engine w.tree file fault) ∧
      (∀ fault, RuleTables.LoadEscape w.engine w.tree file fault →
        (RuleTables.load w.engine w.tree (some file)).outcome = .error fault) ∧
      ∀ (words : List Text) (o : ScanOptions), w.tools.has w.settings.castBin = true →
        (ScanOptions.program w.settings).parse {} words = .ok o → rulesPath w o = some file →
        ((scan w words).exit = .status 1 ↔
          ∃ cause, (RuleTables.load w.engine w.tree (some file)).outcome =
            .error (.rules cause)) ∧
        (∀ fault, (scan w words).exit = .fault fault ↔
          RuleTables.LoadEscape w.engine w.tree file fault ∨
            (∃ tables, (RuleTables.load w.engine w.tree (some file)).outcome = .ok tables) ∧
              ScanFault w o fault) ∧
        ∀ status, (scan w words).exit = .status status → status = 0 ∨ status = 1 := by
  refine ⟨?_, ?_, ?_⟩
  · rw [Escapes.settled_iff]
    exact forall_congr' fun fault => not_congr RuleTables.escapes_load_iff
  · intro fault h
    exact (RuleTables.escapes_load_iff.mpr h).1
  · intro words o hcast hparse hrules
    have hstatus : ∀ status, (scan w words).exit = .status status ↔
        (runScan w o).outcome = .ok status ∧ w.sink.Takes (runScan w o).prints :=
      fun status => Program.exit_start_iff hparse
    have hfault : ∀ fault, (scan w words).exit = .fault fault ↔ _ :=
      fun fault => Program.fault_start_iff hparse
    simp only [hstatus, hfault, ← RuleTables.escapes_load_iff]
    cases scanEnding w o with
    | toolMissing htool =>
      rw [htool] at hcast
      cases hcast
    | badRules htool cause hload hend haside =>
      -- until there are rules nothing is printed, so nothing can be refused
      obtain ⟨htakes, hnone⟩ := w.sink.takes_of_aside haside
      rw [hrules] at hload
      simp [hload, hend, htakes, hnone]
    | strayFault htool fault hload hother hend haside =>
      obtain ⟨htakes, hnone⟩ := w.sink.takes_of_aside haside
      rw [hrules] at hload
      simp [hload, hend, htakes, hnone, Escapes.error_iff hother, hother, eq_comm]
    | unlistable htool rules hload fault hlist hend =>
      rw [hrules] at hload
      simp [hload, hend, scanFault_iff, hlist]
    | scanned htool rules hload hlist hend =>
      have hnone : ∀ fault, (w.tree.artifacts (artifactRoot w o)).outcome ≠ .error fault :=
        fun fault h => hlist fault (FileTree.unlistable_of_artifacts h)
      rw [hrules] at hload
      simp [hload, hend, scanFault_iff, hnone, eq_comm]

/-- A file in which the names of forwarders are a number, or their groups are. -/
def numberTree (key : Text) : FileTree :=
  { entries := [("r.json", .ofText (Json.render (.obj [("forwarder", .obj [(key, .int 1)])])))] }

/-- Nothing but a rule file and a disassembler. -/
def numberSurroundings (key : Text) : Surroundings where
  tree := numberTree key
  tools := [("cast", fun _ => .finished ⟨"", "", 0⟩)]
  settings := { rulesFile := some "r.json" }

theorem eq_error_of_map {α β ε : Type} {x : Except ε α} {f : α → β} {e : ε}
    (h : x.map f = .error e) : x = .error e := by
  cases x with
  | error fault => exact congrArg Except.error (Except.error.inj h)
  | ok a => cases h

/-- A number in place of the names is a fault of the rule file, and nothing else gets out. -/
theorem rules_settle_iff_names :
    (scan (numberSurroundings "names") []).exit = .status 1 ∧
      ∀ fault, ¬ RuleTables.LoadEscape .standard (numberTree "names") "r.json" fault := by
  have hload : (RuleTables.load .standard (numberTree "names") (some ("r.json" : Text))).outcome =
      .error (.rules (.notStrings "names")) :=
    eq_error_of_map (f := fun _ => ()) (by decide +kernel)
  obtain ⟨hsettle, -, hrun⟩ := rules_settle_iff (numberSurroundings "names") "r.json"
  obtain ⟨hone, -, -⟩ := hrun [] {} (by decide) rfl rfl
  exact ⟨hone.mpr ⟨_, hload⟩, hsettle.mp (.inr ⟨_, hload⟩)⟩

/-- A number in place of the groups of types is no fault of the rule file, and ends the program. -/
theorem rules_number_groups :
    (RuleTables.load .standard (numberTree groupsKey) (some ("r.json" : Text))).outcome =
        .error (.notIterable "int") ∧
      (scan (numberSurroundings groupsKey) []).exit = .fault (.notIterable "int") :=
  ⟨eq_error_of_map (f := fun _ => ()) (by decide +kernel), by decide +kernel⟩

end CommandLine
end DelegateAudit

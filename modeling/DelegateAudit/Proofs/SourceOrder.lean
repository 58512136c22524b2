import DelegateAudit.Proofs.FirstOccurrences
import DelegateAudit.Proofs.Layouts
import DelegateAudit.Proofs.WrittenJson

/-!
# DelegateAudit — the order of the sources

An artifact lists its sources without repeating any, though nothing checks this: it is so because
the keys of an object are never repeated, whatever the text. We go from the text to the artifact.
`WrittenMembers` are the members as they stand in the text, and everything is said about them: which
value a key has (the last one), which members an object under a key has, and which metadata are
declared, be it by an object or by a text that spells one. Reading commutes with each of these, and
merging keeps the keys in the order in which they first stand in the text.

Main results:

* `Members.listsFirst_ofList`, `Members.get?_ofList` — merging keeps first places and last values.
* `Artifact.outcome_metadataUnder_of_declares` — the metadata that are read are those declared.
* `FileTree.readArtifact_inTextOrder` — what an artifact that is read lists, and in which order.
-/

namespace DelegateAudit

open Json

-- ---------------------------------------------------------------------------
-- Repeated keys
-- ---------------------------------------------------------------------------

theorem lookup_cons_eq {β : Type} (key : Text) (m : Text × β) (rest : List (Text × β)) :
    (m :: rest).lookup key = if key = m.1 then some m.2 else rest.lookup key := by
  by_cases h : key = m.1
  · rw [if_pos h, h, List.lookup_cons_self]
  · rw [if_neg h, List.lookup_cons, beq_false_of_ne h]

namespace Json.Members

variable {members : Members} {key : Text}

/-- Looking up after a put. -/
theorem get?_put (members : Members) (key : Text) (v : Value) (other : Text) :
    (members.put key v).get? other = if other = key then some v else members.get? other := by
  induction members with
  | nil => exact lookup_cons_eq other (key, v) []
  | cons m rest ih =>
    simp only [get?] at ih ⊢
    rw [put]
    by_cases hkey : m.1 = key
    · rw [if_pos hkey, lookup_cons_eq, lookup_cons_eq, hkey]
      by_cases h : other = key
      · rw [if_pos h, if_pos h]
      · rw [if_neg h, if_neg h, if_neg h]
    · rw [if_neg hkey, lookup_cons_eq, lookup_cons_eq, ih]
      by_cases h : other = key
      · rw [if_pos h, if_pos h, if_neg fun hm => hkey (hm.symm.trans h)]
      · rw [if_neg h, if_neg h]

/-- A put adds its key at the end, unless it is there. -/
theorem keys_put (members : Members) (key : Text) (v : Value) :
    (members.put key v).map Prod.fst =
      if key ∈ members.map Prod.fst then members.map Prod.fst
      else members.map Prod.fst ++ [key] := by
  by_cases h : key ∈ members.map Prod.fst
  · rw [if_pos h]
    induction members with
    | nil => cases h
    | cons m rest ih =>
      rw [put]
      by_cases hkey : m.1 = key
      · rw [if_pos hkey]
        rfl
      · rw [List.map_cons, List.mem_cons] at h
        rw [if_neg hkey, List.map_cons, ih (h.resolve_left (Ne.symm hkey)), List.map_cons]
  · rw [if_neg h, put_of_not_mem v h, List.map_append]
    rfl

theorem ofList_concat (pairs : List (Text × Value)) (m : Text × Value) :
    ofList (pairs ++ [m]) = (ofList pairs).put m.1 m.2 := by
  rw [ofList, List.foldl_append]
  rfl

/-- **A repeated key keeps its first place.** -/
theorem listsFirst_ofList (pairs : List (Text × Value)) :
    ListsFirst (fun _ => True) (pairs.map Prod.fst) ((ofList pairs).map Prod.fst) := by
  induction pairs using List.reverseRecOn with
  | nil => exact .nil _
  | append_singleton pairs m ih =>
    rw [ofList_concat, keys_put, List.map_append]
    split
    · next hmem => exact ih.skip fun _ => hmem
    · next hmem => exact ih.keep trivial hmem

/-- **A repeated key takes its last value.** -/
theorem get?_ofList (pairs : List (Text × Value)) (key : Text) :
    (ofList pairs).get? key = pairs.reverse.lookup key := by
  induction pairs using List.reverseRecOn with
  | nil => rfl
  | append_singleton pairs m ih =>
    rw [ofList_concat, get?_put, ih, List.reverse_append]
    exact (lookup_cons_eq key m pairs.reverse).symm

theorem get?_of_mem (hkeys : (members.map Prod.fst).Nodup) {m : Text × Value} (hm : m ∈ members) :
    members.get? m.1 = some m.2 := by
  induction members with
  | nil => cases hm
  | cons first rest ih =>
    obtain ⟨hnew, hrest⟩ := List.nodup_cons.mp hkeys
    rw [get?, lookup_cons_eq]
    rcases List.mem_cons.mp hm with rfl | hm
    · rw [if_pos rfl]
    · have hne : m.1 ≠ first.1 := fun heq => hnew (heq ▸ List.mem_map_of_mem hm)
      rw [if_neg hne]
      exact ih hrest hm

end Json.Members

-- ---------------------------------------------------------------------------
-- Members as they are written
-- ---------------------------------------------------------------------------

namespace Json.WrittenMembers

/-- The keys in the order of the text, as often as they stand there. -/
def keys (ms : WrittenMembers) : List Text := ms.map Prod.fst

/-- The last value that is written for a key. -/
def last? (ms : WrittenMembers) (key : Text) : Option Written := ms.reverse.lookup key

/-- The members of the object under a key; none, if there is no object. -/
def objectAt (ms : WrittenMembers) (key : Text) : WrittenMembers :=
  match ms.last? key with
  | some (.object members) => members
  | _ => []

/-- What is read: one member for each key. -/
def merged (ms : WrittenMembers) : Members := Members.ofList (Written.memberValues ms)

variable (ms : WrittenMembers) (key : Text)

theorem listsFirst_merged : ListsFirst (fun _ => True) ms.keys (ms.merged.map Prod.fst) := by
  have h := Members.listsFirst_ofList (Written.memberValues ms)
  rw [Written.memberValues_eq_map, List.map_map] at h
  rw [merged, Written.memberValues_eq_map]
  exact h

theorem merged_ne_nil (h : ms ≠ []) : ms.merged ≠ [] := by
  intro hnil
  obtain ⟨m, rest, rfl⟩ := List.exists_cons_of_ne_nil h
  have hmem := ((listsFirst_merged (m :: rest)).mem_iff m.1).mpr ⟨List.mem_cons_self, trivial⟩
  rw [hnil] at hmem
  cases hmem

/-- Of members with one key the last counts. -/
theorem get?_merged : ms.merged.get? key = (ms.last? key).map Written.value := by
  rw [merged, Members.get?_ofList, Written.memberValues_eq_map, ← List.map_reverse, last?]
  induction ms.reverse with
  | nil => rfl
  | cons m rest ih =>
    rw [List.map_cons, lookup_cons_eq, lookup_cons_eq, ih, apply_ite (Option.map Written.value)]
    rfl

theorem objectAt_merged : Artifact.objectAt ms.merged key = (ms.objectAt key).merged := by
  rw [Artifact.objectAt, get?_merged, objectAt]
  cases ms.last? key with
  | none => rfl
  | some w =>
    cases w with
    | scalar v hflat => simp [Written.value, hflat, merged, Written.memberValues, Members.ofList]
    | list items => rfl
    | object members => rfl

end Json.WrittenMembers

theorem Json.Written.eq_object_of_value {w : Written} {members : Members}
    (h : w.value = .obj members) : ∃ ms : WrittenMembers, w = .object ms ∧ members = ms.merged := by
  cases w with
  | scalar v hflat =>
    rw [value] at h
    rw [h] at hflat
    cases hflat
  | list items => cases h
  | object ms => exact ⟨ms, rfl, (Value.obj.inj h).symm⟩

-- ---------------------------------------------------------------------------
-- Declared metadata
-- ---------------------------------------------------------------------------

namespace Artifact

/-- What is written gives an object: it is one, or a text that spells one within some bounds. -/
inductive GivesMembers (bounds : Bounds) : Written → WrittenMembers → Prop
  | object (ms : WrittenMembers) : GivesMembers bounds (.object ms) ms
  | spelled {t : Text} {ms : WrittenMembers} {hflat : (Value.str t).members? = none}
      (h : Spells bounds t (.object ms)) : GivesMembers bounds (.scalar (.str t) hflat) ms

/-- The metadata under the first of some keys that gives an object; empty, if none does. -/
inductive Declares (bounds : Bounds) (data : WrittenMembers) : List Text → WrittenMembers → Prop
  | nothing : Declares bounds data [] []
  | found {key : Text} {keys : List Text} {w : Written} {ms : WrittenMembers}
      (h : data.last? key = some w) (hw : GivesMembers bounds w ms) :
      Declares bounds data (key :: keys) ms
  | passed {key : Text} {keys : List Text} {ms : WrittenMembers}
      (hnone : ∀ w, data.last? key = some w → ∀ ms, ¬ GivesMembers bounds w ms)
      (hrest : Declares bounds data keys ms) : Declares bounds data (key :: keys) ms

variable {bounds : Bounds}

theorem givesObject_value_iff {w : Written} {members : Members} :
    GivesObject bounds w.value members ↔
      ∃ ms, GivesMembers bounds w ms ∧ members = ms.merged := by
  constructor
  · intro h
    cases w with
    | scalar v hflat =>
      cases h with
      | object => cases hflat
      | spelled hparse =>
        obtain ⟨w, hspells, hvalue⟩ := parse_eq_ok_iff.mp hparse
        obtain ⟨ms, rfl, hmerged⟩ := Written.eq_object_of_value hvalue
        exact ⟨ms, .spelled hspells, hmerged⟩
    | list items => cases h
    | object ms =>
      cases h
      exact ⟨ms, .object ms, rfl⟩
  · rintro ⟨ms, h, rfl⟩
    cases h with
    | object ms => exact .object ms.merged
    | spelled h => exact .spelled (parse_eq_ok_iff.mpr ⟨_, h, rfl⟩)

/-- There always is some metadata, be it empty. -/
theorem exists_declares (bounds : Bounds) (data : WrittenMembers) (keys : List Text) :
    ∃ metadata, Declares bounds data keys metadata := by
  induction keys with
  | nil => exact ⟨[], .nothing⟩
  | cons key keys ih =>
    obtain ⟨metadata, hrest⟩ := ih
    by_cases hgives : ∃ w, data.last? key = some w ∧ ∃ ms, GivesMembers bounds w ms
    · obtain ⟨w, h, ms, hw⟩ := hgives
      exact ⟨ms, .found h hw⟩
    · exact ⟨metadata, .passed (fun w h ms hw => hgives ⟨w, h, ms, hw⟩) hrest⟩

/-- **The metadata that are read are those that are declared.** -/
theorem outcome_metadataUnder_of_declares {data metadata : WrittenMembers} {keys : List Text}
    (h : Declares bounds data keys metadata) :
    (metadataUnder bounds data.merged keys).outcome = .ok metadata.merged := by
  induction h with
  | nothing => rfl
  | @found key keys w ms h hw =>
    have hkey : data.merged.get? key = some w.value := by
      rw [WrittenMembers.get?_merged, h]
      rfl
    rw [metadataUnder_of_gives hkey (givesObject_value_iff.mpr ⟨ms, hw, rfl⟩)]
    rfl
  | @passed key keys ms hnone _ ih =>
    rw [metadataUnder_of_givesNone, ih]
    intro v hkey members hv
    rw [WrittenMembers.get?_merged] at hkey
    obtain ⟨w, hlast, rfl⟩ := Option.map_eq_some_iff.mp hkey
    obtain ⟨ms, hw, -⟩ := givesObject_value_iff.mp hv
    exact hnone w hlast ms hw

-- ---------------------------------------------------------------------------
-- What an artifact lists
-- ---------------------------------------------------------------------------

/-- The keys under which metadata may stand. -/
def metadataKeys : List Text := ["metadata", "rawMetadata"]

/-- The sources and the contracts they were compiled for, as they are written. -/
def targets (metadata : WrittenMembers) : WrittenMembers :=
  (metadata.objectAt "settings").objectAt "compilationTarget"

/-- A source was compiled for a contract: the last value written for it has the contract's name as
its text. -/
def CompiledFor (targets : WrittenMembers) (contract source : Text) : Prop :=
  ∃ w, targets.last? source = some w ∧ w.value.display = contract

/-- The artifact lists sources as they first stand in the metadata. -/
structure InTextOrder (artifact : Artifact) (metadata : WrittenMembers) : Prop where
  imported : ListsFirst (fun _ => True) (metadata.objectAt "sources").keys artifact.importedSources
  primary  : targets metadata ≠ [] →
               FirstOf (CompiledFor (targets metadata) artifact.contractName)
                 (targets metadata).keys artifact.primarySource

theorem listsFirst_sources (metadata : WrittenMembers) :
    ListsFirst (fun _ => True) (metadata.objectAt "sources").keys (sources metadata.merged) := by
  rw [sources, WrittenMembers.objectAt_merged]
  exact WrittenMembers.listsFirst_merged _

theorem compilationTarget_merged (metadata : WrittenMembers) :
    compilationTarget metadata.merged =
      (targets metadata).merged.map fun m => (m.1, m.2.display) := by
  rw [compilationTarget, WrittenMembers.objectAt_merged, WrittenMembers.objectAt_merged]
  rfl

/-- The main source is the first target that the contract was compiled for. -/
theorem firstOf_primarySourceOf {data : Members} {metadata : WrittenMembers}
    (htargets : targets metadata ≠ []) (name : Text) :
    FirstOf (CompiledFor (targets metadata) name) (targets metadata).keys
      (primarySourceOf data metadata.merged name) := by
  have hfirst := WrittenMembers.listsFirst_merged (targets metadata)
  have hmerged := WrittenMembers.merged_ne_nil _ htargets
  have hprimary : primarySourceOf data metadata.merged name =
      ((targets metadata).merged.find? fun m => m.2.display = name).map Prod.fst := by
    rw [primarySourceOf, compilationTarget_merged]
    split
    · next hnil => exact absurd (List.map_eq_nil_iff.mp hnil) hmerged
    · rw [List.find?_map, Option.map_map]
      rfl
  rw [hprimary]
  refine hfirst.firstOf_find? fun m hm => ?_
  have hlast := Members.get?_of_mem hfirst.distinct hm
  rw [WrittenMembers.get?_merged] at hlast
  rw [decide_eq_true_iff, CompiledFor]
  constructor
  · intro hname
    obtain ⟨w, hw, hvalue⟩ := Option.map_eq_some_iff.mp hlast
    exact ⟨w, hw, by rw [hvalue, hname]⟩
  · rintro ⟨w, hw, hname⟩
    rw [hw] at hlast
    rw [← Option.some.inj hlast, hname]

/-- An artifact that is made from members keeps their order. -/
theorem inTextOrder_of_ofMembers {path : Text} {data metadata : WrittenMembers}
    {artifact : Artifact} (h : (ofMembers bounds path data.merged).outcome = .ok artifact)
    (hmetadata : Declares bounds data metadataKeys metadata) : artifact.InTextOrder metadata := by
  obtain ⟨read, hread, h⟩ := Run.outcome_bind_eq_ok.mp h
  obtain rfl := Except.ok.inj ((outcome_metadataUnder_of_declares hmetadata).symm.trans hread)
  cases h
  exact ⟨listsFirst_sources metadata, fun htargets => firstOf_primarySourceOf htargets _⟩

end Artifact

namespace FileTree

theorem readJson_eq_ok {tree : FileTree} {bounds : Bounds} {path : Text} {v : Value}
    (h : tree.readJson bounds path = .ok v) :
    ∃ content text, tree.read path = .ok content ∧ content.decodeUtf8 = .ok text ∧
      Json.parse bounds text.unifyNewlines = .ok v := by
  unfold readJson at h
  split at h
  · cases h
  next content hread =>
  split at h
  · cases h
  next text htext =>
  cases hparse : Json.parse bounds text.unifyNewlines with
  | error fault =>
    rw [hparse] at h
    cases h
  | ok w =>
    rw [hparse] at h
    cases h
    exact ⟨content, text, hread, htext, hparse⟩

/-- **The sources of an artifact are listed once each, in the order in which they first stand in the
text, and its own source is the first that was compiled for it.** This is said of what is written in
the file, with all keys that are repeated, and of the metadata as they are written there or in a
text inside, within the bounds for either. -/
theorem readArtifact_inTextOrder (tree : FileTree) (path : Text) (artifact : Artifact)
    (h : (tree.readArtifact path).outcome = .ok artifact) :
    ∃ content text data, tree.read path = .ok content ∧ content.decodeUtf8 = .ok text ∧
      (∀ w, Spells tree.limits.artifact text.unifyNewlines w ↔ w = .object data) ∧
      (∃ metadata, Artifact.Declares tree.limits.metadata data Artifact.metadataKeys metadata) ∧
      ∀ metadata, Artifact.Declares tree.limits.metadata data Artifact.metadataKeys metadata →
        artifact.importedSources.Nodup ∧ artifact.InTextOrder metadata := by
  obtain ⟨members, hjson, hmembers⟩ := readArtifact_eq_ok_iff.mp h
  obtain ⟨content, text, hread, htext, hparse⟩ := readJson_eq_ok hjson
  obtain ⟨w, hspells, hvalue⟩ := parse_eq_ok_iff.mp hparse
  obtain ⟨data, rfl, rfl⟩ := Written.eq_object_of_value hvalue
  refine ⟨content, text, data, hread, htext, ?_, Artifact.exists_declares _ data _, ?_⟩
  · intro w
    constructor
    · intro hw
      exact hw.unique hspells
    · rintro rfl
      exact hspells
  · intro metadata hmetadata
    have horder := Artifact.inTextOrder_of_ofMembers hmembers hmetadata
    exact ⟨horder.imported.distinct, horder⟩

/-- An artifact with its metadata in a text, where keys are repeated at every level. -/
def repeatedKeys : FileTree :=
  { entries := [("A.json", .ofText ("\x7b\"contractName\": \"C\", \"metadata\": 1, " ++
    "\"metadata\": \"\x7b\\\"sources\\\": \x7b\\\"b\\\": 1, \\\"a\\\": 2, \\\"b\\\": 3\x7d, " ++
    "\\\"settings\\\": \x7b\\\"compilationTarget\\\": " ++
    "\x7b\\\"b\\\": \\\"C\\\", \\\"a\\\": \\\"C\\\", \\\"b\\\": 7\x7d\x7d\x7d\"\x7d"))] }

/-- The first source is not compiled for the contract, as its last value is another. -/
theorem readArtifact_inTextOrder_repeatedKeys :
    ∃ artifact, (repeatedKeys.readArtifact "A.json").outcome = .ok artifact ∧
      artifact.importedSources = ["b", "a"] ∧ artifact.primarySource = some "a" ∧
      ∃ content text data metadata, repeatedKeys.read "A.json" = .ok content ∧
        content.decodeUtf8 = .ok text ∧
        Spells repeatedKeys.limits.artifact text.unifyNewlines (.object data) ∧
        Artifact.Declares repeatedKeys.limits.metadata data Artifact.metadataKeys metadata ∧
        artifact.InTextOrder metadata := by
  have hlists : ((repeatedKeys.readArtifact "A.json").outcome.map fun artifact =>
      (artifact.importedSources, artifact.primarySource)) =
        .ok ([("b" : Text), "a"], some ("a" : Text)) := by
    decide +kernel
  obtain ⟨artifact, hread, hlisted⟩ := Reader.map_eq_ok hlists
  obtain ⟨himported, hprimary⟩ := Prod.mk.inj hlisted
  obtain ⟨content, text, data, hfile, htext, hspells, ⟨metadata, hmetadata⟩, horder⟩ :=
    readArtifact_inTextOrder repeatedKeys "A.json" artifact hread
  exact ⟨artifact, hread, himported, hprimary, content, text, data, metadata, hfile, htext,
    (hspells _).mpr rfl, hmetadata, (horder metadata hmetadata).2⟩

end FileTree
end DelegateAudit

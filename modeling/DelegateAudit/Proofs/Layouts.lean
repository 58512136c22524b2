import DelegateAudit.Proofs.StrictScan

/-!
# DelegateAudit — the layout of an artifact

Compilers write the same facts in different ways. Bytecode is a text, or an object with the text in
it; metadata are an object, or a text that spells one, and stand under one of two keys. We show
that the artifact does not depend on this. `Artifact.SameContent` relates two objects that say the
same in layouts of their own, for all four keys at once: whatever code, metadata and other members
there are, both are read as one artifact.

Metadata are the hard part, because what is under the second key counts only if nothing under the
first key is an object or spells one. The two step lemmas for `Artifact.metadataUnder` say when a
key settles the search and when it is passed over.

Main results:

* `Artifact.outcome_metadata_of_states` — the metadata that are read are those that are stated.
* `Artifact.ofMembers_of_sameContent` — objects with the same content are the same artifact.
-/

namespace DelegateAudit.Artifact

open Json

-- ---------------------------------------------------------------------------
-- Ways to say the same
-- ---------------------------------------------------------------------------

/-- The value holds a code: it is the text of the code, or an object with this text in it. -/
inductive HoldsCode : Value → Text → Prop
  | text (code : Text) : HoldsCode (.str code) code
  | object {members : Members} {code : Text} (h : members.get? "object" = some (.str code)) :
      HoldsCode (.obj members) code

/-- Under a key stands the same, or two values that hold one code. -/
inductive SameCode (data data' : Members) (key : Text) : Prop
  | same (h : data.get? key = data'.get? key)
  | held {v v' : Value} {code : Text} (h : data.get? key = some v) (h' : data'.get? key = some v')
      (hv : HoldsCode v code) (hv' : HoldsCode v' code)

/-- The value gives an object: it is the object, or a text that spells it within some bounds. -/
inductive GivesObject (bounds : Bounds) : Value → Members → Prop
  | object (members : Members) : GivesObject bounds (.obj members) members
  | spelled {t : Text} {members : Members} (h : Json.parse bounds t = .ok (.obj members)) :
      GivesObject bounds (.str t) members

/-- Nothing under the key gives an object. -/
def GivesNone (bounds : Bounds) (data : Members) (key : Text) : Prop :=
  ∀ v, data.get? key = some v → ∀ members, ¬ GivesObject bounds v members

/-- The metadata are stated: under the first key, or under the second if the first gives none. -/
inductive StatesMetadata (bounds : Bounds) (data metadata : Members) : Prop
  | first {v : Value} (h : data.get? "metadata" = some v) (hv : GivesObject bounds v metadata)
  | second {v : Value} (hnone : GivesNone bounds data "metadata")
      (h : data.get? "rawMetadata" = some v) (hv : GivesObject bounds v metadata)

/-- Both say the same about the metadata: they have the same under both keys, or state the same. -/
inductive SameMetadata (bounds : Bounds) (data data' : Members) : Prop
  | same (h : ∀ key ∈ [("metadata" : Text), "rawMetadata"], data.get? key = data'.get? key)
  | stated {metadata : Members} (h : StatesMetadata bounds data metadata)
      (h' : StatesMetadata bounds data' metadata)

/-- The keys whose values can be laid out in more than one way. -/
def layoutKeys : List Text := ["deployedBytecode", "bytecode", "metadata", "rawMetadata"]

/-- Two objects say the same, each in a layout of its own; texts are read within some bounds. -/
structure SameContent (bounds : Bounds) (data data' : Members) : Prop where
  runtime  : SameCode data data' "deployedBytecode"
  creation : SameCode data data' "bytecode"
  metadata : SameMetadata bounds data data'
  others   : ∀ key ∉ layoutKeys, data.get? key = data'.get? key

/-- The object says that one source was compiled, and for which contract. A name of its own, if it
has one, is that of the contract. -/
structure OneTarget (bounds : Bounds) (data : Members) (source contract : Text) : Prop where
  target : ∃ metadata settings : Members, StatesMetadata bounds data metadata ∧
             metadata.get? "settings" = some (.obj settings) ∧
             settings.get? "compilationTarget" = some (.obj [(source, .str contract)])
  name   : data.get? "contractName" = none ∨ data.get? "contractName" = some (.str contract)

/-- The artifact has what the object says, in whichever layout. -/
structure Reflects (bounds : Bounds) (artifact : Artifact) (data : Members) : Prop where
  runtime  : ∀ v code, data.get? "deployedBytecode" = some v → HoldsCode v code →
               artifact.runtime = some code
  creation : ∀ v code, data.get? "bytecode" = some v → HoldsCode v code →
               artifact.creation = some code
  abi      : ∀ entries, data.get? "abi" = some (.arr entries) → artifact.abi = entries
  target   : ∀ source contract, OneTarget bounds data source contract →
               artifact.primarySource = some source ∧ artifact.contractName = contract
  sources  : ∀ metadata listed : Members, StatesMetadata bounds data metadata →
               metadata.get? "sources" = some (.obj listed) →
               artifact.importedSources = listed.map Prod.fst

-- ---------------------------------------------------------------------------
-- Reading
-- ---------------------------------------------------------------------------

variable {bounds : Bounds} {data data' : Members} {key : Text} {keys : List Text}

theorem bytecodeText_of_holdsCode {v : Value} {code : Text} (h : HoldsCode v code) :
    bytecodeText (some v) = some code := by
  cases h with
  | text code => rfl
  | object h =>
    rw [bytecodeText, h]
    rfl

theorem bytecodeText_of_sameCode (h : SameCode data data' key) :
    bytecodeText (data.get? key) = bytecodeText (data'.get? key) := by
  cases h with
  | same h => rw [h]
  | held h h' hv hv' => rw [h, h', bytecodeText_of_holdsCode hv, bytecodeText_of_holdsCode hv']

/-- A key that gives an object settles the search. -/
theorem metadataUnder_of_gives {v : Value} {metadata : Members} (h : data.get? key = some v)
    (hv : GivesObject bounds v metadata) :
    metadataUnder bounds data (key :: keys) = pure metadata := by
  cases hv with
  | object members => rw [metadataUnder, h]
  | spelled hparse =>
    rw [metadataUnder, h]
    simp only [hparse]

/-- A key that gives none is passed over. -/
theorem metadataUnder_of_givesNone (h : GivesNone bounds data key) :
    (metadataUnder bounds data (key :: keys)).outcome =
      (metadataUnder bounds data keys).outcome := by
  rw [metadataUnder]
  cases hkey : data.get? key with
  | none => rfl
  | some v =>
    cases v with
    | obj members => exact absurd (.object members) (h _ hkey members)
    | str t =>
      cases hparse : Json.parse bounds t with
      | error fault =>
        simp only [hparse]
        rw [Run.outcome_log_bind]
      | ok spelled =>
        cases spelled with
        | obj members => exact absurd (.spelled hparse) (h _ hkey members)
        | _ => simp only [hparse]
    | _ => rfl

theorem outcome_metadata_of_states {metadata : Members}
    (h : StatesMetadata bounds data metadata) :
    (Artifact.metadata bounds data).outcome = .ok metadata := by
  rw [Artifact.metadata]
  cases h with
  | first h hv =>
    rw [metadataUnder_of_gives h hv]
    rfl
  | second hnone h hv =>
    rw [metadataUnder_of_givesNone hnone, metadataUnder_of_gives h hv]
    rfl

theorem metadataUnder_congr (h : ∀ key ∈ keys, data.get? key = data'.get? key) :
    metadataUnder bounds data keys = metadataUnder bounds data' keys := by
  induction keys with
  | nil => rfl
  | cons key keys ih =>
    obtain ⟨hkey, hrest⟩ := List.forall_mem_cons.mp h
    rw [metadataUnder, metadataUnder, hkey, ih hrest]

theorem outcome_metadata_of_sameMetadata (h : SameMetadata bounds data data') :
    (Artifact.metadata bounds data).outcome = (Artifact.metadata bounds data').outcome := by
  cases h with
  | same h => rw [Artifact.metadata, Artifact.metadata, metadataUnder_congr h]
  | stated h h' => rw [outcome_metadata_of_states h, outcome_metadata_of_states h']

theorem nonEmptyText?_congr (h : data.get? key = data'.get? key) :
    nonEmptyText? data key = nonEmptyText? data' key := by
  rw [nonEmptyText?, nonEmptyText?, h]

theorem nameOf_congr (h : ∀ key ∉ layoutKeys, data.get? key = data'.get? key)
    (metadata : Members) : nameOf data metadata = nameOf data' metadata := by
  rw [nameOf, nameOf, nonEmptyText?_congr (h "contractName" (by decide))]

theorem primarySourceOf_congr (h : ∀ key ∉ layoutKeys, data.get? key = data'.get? key)
    (metadata : Members) (name : Text) :
    primarySourceOf data metadata name = primarySourceOf data' metadata name := by
  rw [primarySourceOf, primarySourceOf, nonEmptyText?_congr (h "sourceName" (by decide)),
    nonEmptyText?_congr (h "sourcePath" (by decide))]

theorem objectAt_of_get? {members inner : Members} (h : members.get? key = some (.obj inner)) :
    objectAt members key = inner := by
  rw [objectAt, h]
  rfl

/-- Where one source was compiled, the name and the source are those of its target. -/
theorem nameOf_of_oneTarget {metadata settings : Members} {source contract : Text}
    (hsettings : metadata.get? "settings" = some (.obj settings))
    (htarget : settings.get? "compilationTarget" = some (.obj [(source, .str contract)]))
    (hname : data.get? "contractName" = none ∨ data.get? "contractName" = some (.str contract)) :
    nameOf data metadata = contract ∧ primarySourceOf data metadata contract = some source := by
  have htargets : compilationTarget metadata = [(source, contract)] := by
    rw [compilationTarget, objectAt_of_get? hsettings, objectAt_of_get? htarget]
    rfl
  constructor
  · rw [nameOf, htargets, nonEmptyText?]
    -- an empty name of its own counts for nothing
    rcases hname with hname | hname <;> rw [hname]
    · rfl
    · cases contract <;> rfl
  · rw [primarySourceOf, htargets]
    simp

/-- An artifact has what its object says. -/
theorem reflects_of_ofMembers {path : Text} {artifact : Artifact}
    (h : (ofMembers bounds path data).outcome = .ok artifact) :
    artifact.Reflects bounds data := by
  obtain ⟨metadata, hmetadata, hartifact⟩ := Run.outcome_bind_eq_ok.mp h
  cases hartifact
  have hstated : ∀ {stated : Members}, StatesMetadata bounds data stated → stated = metadata := by
    intro stated hstated
    exact Except.ok.inj ((outcome_metadata_of_states hstated).symm.trans hmetadata)
  refine ⟨?_, ?_, ?_, ?_, ?_⟩
  · intro v code hv hcode
    show bytecodeText (data.get? "deployedBytecode") = some code
    rw [hv, bytecodeText_of_holdsCode hcode]
  · intro v code hv hcode
    show bytecodeText (data.get? "bytecode") = some code
    rw [hv, bytecodeText_of_holdsCode hcode]
  · intro entries habi
    simp only [habi]
  · rintro source contract ⟨⟨stated, settings, hstates, hsettings, htarget⟩, hname⟩
    obtain rfl := hstated hstates
    obtain ⟨hcontract, hsource⟩ := nameOf_of_oneTarget hsettings htarget hname
    exact ⟨by simp only [hcontract, hsource], hcontract⟩
  · intro stated listed hstates hlisted
    obtain rfl := hstated hstates
    show sources stated = _
    rw [sources, objectAt_of_get? hlisted]

/-- **The layout does not matter.** Two objects that say the same are read as the same artifact, and
it has what they say. It makes no difference whether a code is a text or an object with this text in
it, whether metadata are an object or a text that spells it, and under which of their keys they
stand, as long as nothing under the first key gives an object when they stand under the second. -/
theorem ofMembers_of_sameContent (bounds : Bounds) (path : Text) (data data' : Members)
    (h : SameContent bounds data data') :
    ∃ artifact, (ofMembers bounds path data).outcome = .ok artifact ∧
      (ofMembers bounds path data').outcome = .ok artifact ∧ artifact.Reflects bounds data := by
  obtain ⟨metadata, hmetadata⟩ :
      ∃ metadata, (Artifact.metadata bounds data).outcome = .ok metadata :=
    exists_metadataUnder bounds data _
  have hmetadata' : (Artifact.metadata bounds data').outcome = .ok metadata :=
    (outcome_metadata_of_sameMetadata h.metadata).symm.trans hmetadata
  have hsame : (ofMembers bounds path data).outcome = (ofMembers bounds path data').outcome := by
    rw [ofMembers, ofMembers, Run.outcome_bind_of_ok hmetadata, Run.outcome_bind_of_ok hmetadata']
    simp only [nameOf_congr h.others, primarySourceOf_congr h.others, h.others "abi" (by decide),
      bytecodeText_of_sameCode h.runtime, bytecodeText_of_sameCode h.creation]
  obtain ⟨artifact, hartifact⟩ := exists_ofMembers bounds path data
  exact ⟨artifact, hartifact, hsame.symm.trans hartifact, reflects_of_ofMembers hartifact⟩

/-- Metadata of one source, compiled for one contract. -/
def relayMetadata : Members :=
  [("settings", .obj [("compilationTarget", .obj [("src/Relay.sol", .str "Relay")])]),
    ("sources", .obj [("src/Relay.sol", .obj []), ("src/Proxy.sol", .obj [])])]

/-- Codes as objects, and metadata as one. -/
def objectLayout : Members :=
  [("abi", .arr [.str "fallback"]),
    ("bytecode", .obj [("object", .str "0x6001"), ("sourceMap", .str "0:1")]),
    ("deployedBytecode", .obj [("object", .str "0x36f4")]),
    ("metadata", .obj relayMetadata), ("sourceName", .str "src/Other.sol")]

/-- Codes as texts, and metadata as a text under the second key, with no JSON under the first. -/
def textLayout : Members :=
  [("sourceName", .str "src/Other.sol"), ("deployedBytecode", .str "0x36f4"),
    ("metadata", .str "0.8.24+commit"),
    ("rawMetadata", .str (Json.render (.obj relayMetadata))),
    ("bytecode", .str "0x6001"), ("abi", .arr [.str "fallback"])]

set_option maxRecDepth 8000 in
theorem sameContent_objectLayout_textLayout : SameContent {} objectLayout textLayout := by
  have hspelled : Json.parse {} (Json.render (.obj relayMetadata)) = .ok (.obj relayMetadata) := by
    with_unfolding_all rfl
  have hnone : GivesNone {} textLayout "metadata" := by
    intro v hv members hgives
    cases hv
    cases hgives with
    | spelled h =>
      have hfault : (Json.parse {} "0.8.24+commit").isOk = false := by decide +kernel
      rw [h] at hfault
      cases hfault
  refine ⟨.held rfl rfl (.object rfl) (.text _), .held rfl rfl (.object rfl) (.text _),
    .stated (.first rfl (.object _)) (.second hnone rfl (.spelled hspelled)), ?_⟩
  intro key hkey
  simp only [layoutKeys, List.mem_cons, List.not_mem_nil, or_false, not_or] at hkey
  obtain ⟨hruntime, hcreation, hmetadata, hraw⟩ := hkey
  simp only [objectLayout, textLayout, Members.get?, List.lookup_cons, List.lookup_nil,
    beq_false_of_ne hruntime, beq_false_of_ne hcreation, beq_false_of_ne hmetadata,
    beq_false_of_ne hraw]
  by_cases habi : key = "abi"
  · rw [habi]
    rfl
  · rw [beq_false_of_ne habi]

/-- An object with its codes and metadata as objects, and one with texts in their places, the
metadata under the second key. -/
theorem ofMembers_of_sameContent_layouts :
    SameContent {} objectLayout textLayout ∧
    ∃ artifact, (ofMembers {} "out/Relay.json" objectLayout).outcome = .ok artifact ∧
      (ofMembers {} "out/Relay.json" textLayout).outcome = .ok artifact ∧
      artifact.Reflects {} objectLayout :=
  ⟨sameContent_objectLayout_textLayout,
    ofMembers_of_sameContent _ _ _ _ sameContent_objectLayout_textLayout⟩

end DelegateAudit.Artifact

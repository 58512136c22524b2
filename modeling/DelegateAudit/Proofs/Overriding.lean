import DelegateAudit.Proofs.PathOrder
import DelegateAudit.Proofs.RuleFiles

/-!
# DelegateAudit — rule files override key by key

A rule file has six keys in two sections (`RuleKey`). Written out, tables have all of them; a file
with some of them is an excerpt of the tables (`RuleTables.IsExcerpt`). Loading an excerpt gives
the tables back under the keys that it has, and the built-in tables under all others. Nothing
hangs on what stands there: a list that is there and empty is not a list that is missing, and a
section that has lost all its keys may be empty, null or missing as well.

Sets are kept as sorted lists, and tables as they should be (`RuleTables.Legal`) have no other
lists in the place of sets; `textSet_sorted` gives such a list for every set.

Main results:

* `textSet_sorted`, `textSet_eq_self` — a set is a sorted list, and sorting it once more changes
  nothing.
* `ForwarderRules.override_excerpt`, `SourcePatterns.override_excerpt` — what the sections override.
* `RuleTables.load_excerpt` — what a file overrides.
-/

namespace DelegateAudit

open Json

-- ---------------------------------------------------------------------------
-- Sets of texts
-- ---------------------------------------------------------------------------

/-- In order, and nothing twice. -/
def Ascending (texts : List Text) : Prop := texts.Pairwise fun s t => Text.cmp s t = .lt

instance (texts : List Text) : Decidable (Ascending texts) :=
  inferInstanceAs (Decidable (texts.Pairwise fun s t => Text.cmp s t = .lt))

theorem mem_insertText {s t : Text} {texts : List Text} (h : s ∈ insertText t texts) :
    s = t ∨ s ∈ texts := by
  induction texts with
  | nil => exact .inl (List.mem_singleton.mp h)
  | cons u rest ih =>
    rw [insertText] at h
    cases hcmp : Text.cmp t u with
    | lt =>
      rw [hcmp] at h
      exact List.mem_cons.mp h
    | eq =>
      rw [hcmp] at h
      exact .inr h
    | gt =>
      rw [hcmp] at h
      rcases List.mem_cons.mp h with rfl | h
      · exact .inr List.mem_cons_self
      · exact (ih h).imp_right (List.mem_cons_of_mem u)

theorem Ascending.insertText {texts : List Text} (h : Ascending texts) (t : Text) :
    Ascending (insertText t texts) := by
  induction texts with
  | nil => exact List.pairwise_singleton _ _
  | cons u rest ih =>
    obtain ⟨hfirst, hrest⟩ := List.pairwise_cons.mp h
    rw [DelegateAudit.insertText]
    cases hcmp : Text.cmp t u with
    | lt =>
      refine List.pairwise_cons.mpr ⟨fun s hs => ?_, h⟩
      rcases List.mem_cons.mp hs with rfl | hs
      · exact hcmp
      · exact Std.TransCmp.lt_trans hcmp (hfirst s hs)
    | eq => exact h
    | gt =>
      refine List.pairwise_cons.mpr ⟨fun s hs => ?_, ih hrest⟩
      rcases mem_insertText hs with rfl | hs
      · exact Std.OrientedCmp.lt_of_gt hcmp
      · exact hfirst s hs

/-- A set of texts is in order, without repetition. -/
theorem textSet_sorted (texts : List Text) : Ascending (textSet texts) := by
  induction texts with
  | nil => exact .nil
  | cons t rest ih => exact ih.insertText t

/-- Texts in order are their own set. -/
theorem textSet_eq_self {texts : List Text} (h : Ascending texts) : textSet texts = texts := by
  induction texts with
  | nil => rfl
  | cons t rest ih =>
    obtain ⟨hfirst, hrest⟩ := List.pairwise_cons.mp h
    have hset : textSet (t :: rest) = insertText t rest := by
      rw [textSet, List.foldr_cons, ← textSet, ih hrest]
    rw [hset]
    cases rest with
    | nil => rfl
    | cons u more =>
      have hless : Text.cmp t u = .lt := hfirst u List.mem_cons_self
      rw [insertText, hless]

-- ---------------------------------------------------------------------------
-- Keys and excerpts
-- ---------------------------------------------------------------------------

/-- What a rule file can override. -/
inductive RuleKey where
  | forwarderVersion
  | names
  | exactSignatures
  | groups
  | sourcesVersion
  | patterns
deriving DecidableEq

namespace RuleKey

/-- The section that a key stands in. -/
def part : RuleKey → Text
  | .forwarderVersion | .names | .exactSignatures | .groups => "forwarder"
  | .sourcesVersion | .patterns => "source_patterns"

/-- A key as it is written. -/
def name : RuleKey → Text
  | .forwarderVersion | .sourcesVersion => "version"
  | .names => "names"
  | .exactSignatures => "exact_signatures"
  | .groups => groupsKey
  | .patterns => "patterns"

/-- A key is known by its section and its name. -/
theorem eq_of_part_name {key other : RuleKey} (hpart : key.part = other.part)
    (hname : key.name = other.name) : key = other := by
  revert hpart hname
  cases key <;> cases other <;> decide

/-- Two tables have the same under a key. -/
def Agree : RuleKey → RuleTables → RuleTables → Prop
  | .forwarderVersion, s, t => s.forwarder.version = t.forwarder.version
  | .names, s, t => s.forwarder.names = t.forwarder.names
  | .exactSignatures, s, t => s.forwarder.exactSignatures = t.forwarder.exactSignatures
  | .groups, s, t => s.forwarder.groups = t.forwarder.groups
  | .sourcesVersion, s, t => s.sources.version = t.sources.version
  | .patterns, s, t =>
    s.sources.written = t.sources.written ∧ s.sources.patterns = t.sources.patterns

end RuleKey

/-- The keys are all there is to tables. -/
theorem RuleTables.eq_of_agree {s t : RuleTables} (h : ∀ key : RuleKey, key.Agree s t) : s = t := by
  obtain ⟨⟨version, names, signatures, groups⟩, ⟨version', written, patterns⟩⟩ := s
  obtain rfl := h .forwarderVersion
  obtain rfl := h .names
  obtain rfl := h .exactSignatures
  obtain rfl := h .groups
  obtain rfl := h .sourcesVersion
  obtain ⟨rfl, rfl⟩ := h .patterns
  rfl

/-- The members of a section that stand under kept keys. -/
def keptMembers (kept : Finset RuleKey) (part : Text) : Value → Members
  | .obj members => members.filter fun member =>
      decide (∃ key ∈ kept, key.part = part ∧ key.name = member.1)
  | _ => []

/-- In a rule file the section under a key has these members, in whatever order. If there are none,
the section may also be missing or null. -/
inductive SectionHas (data : Members) (part : Text) (members : Members) : Prop
  | object {found : Members} (h : data.get? part = some (.obj found))
      (hsame : ∀ key, found.get? key = members.get? key)
  | missing (h : data.get? part = none) (hnone : members = [])
  | null (h : data.get? part = some .null) (hnone : members = [])

/-- A rule file with what written tables have under some keys, and nothing else. -/
structure RuleTables.IsExcerpt (data : Members) (tables : RuleTables) (kept : Finset RuleKey) :
    Prop where
  forwarder : SectionHas data "forwarder" (keptMembers kept "forwarder" tables.forwarder.toValue)
  sources : SectionHas data "source_patterns"
    (keptMembers kept "source_patterns" tables.sources.toValue)

/-- Sets stand in the place of sets. -/
structure ForwarderRules.Legal (rules : ForwarderRules) : Prop where
  names : Ascending rules.names
  exactSignatures : Ascending rules.exactSignatures

/-- All patterns are valid ones for the engine, and have been read by it. -/
def SourcePatterns.Legal (engine : Pattern.Engine) (table : SourcePatterns) : Prop :=
  table.written.mapM engine.read = .ok table.patterns

/-- Tables as they should be. -/
structure RuleTables.Legal (engine : Pattern.Engine) (tables : RuleTables) : Prop where
  forwarder : tables.forwarder.Legal
  sources : tables.sources.Legal engine

/-- The built-in tables are legal. -/
theorem ForwarderRules.legal_standard : ForwarderRules.standard.Legal where
  names := textSet_sorted _
  exactSignatures := textSet_sorted _

theorem SourcePatterns.legal_standard (engine : Pattern.Engine) :
    SourcePatterns.standard.Legal engine :=
  engine.knowsStandard

theorem Json.Members.get?_filter (members : Members) (keep : Text → Bool) (key : Text) :
    Members.get? (members.filter fun member => keep member.1) key =
      if keep key = true then members.get? key else none := by
  unfold Members.get?
  induction members with
  | nil => simp
  | cons member rest ih =>
    obtain ⟨other, v⟩ := member
    by_cases hkey : key = other
    · subst hkey
      cases hkeep : keep key <;> simp [hkeep, ih]
    · have hother : (key == other) = false := beq_eq_false_iff_ne.mpr hkey
      cases hkeep : keep other <;> simp [hkeep, ih, List.lookup_cons, hother]

/-- Under a key that is kept stands what stood there, and nothing under any other. -/
theorem get?_keptMembers (kept : Finset RuleKey) (key : RuleKey) (members : Members) :
    (keptMembers kept key.part (.obj members)).get? key.name =
      if key ∈ kept then members.get? key.name else none := by
  have hkept : (∃ other ∈ kept, other.part = key.part ∧ other.name = key.name) ↔ key ∈ kept := by
    constructor
    · rintro ⟨other, hmem, hpart, hname⟩
      rwa [RuleKey.eq_of_part_name hpart hname] at hmem
    · intro hmem
      exact ⟨key, hmem, rfl, rfl⟩
  rw [keptMembers, Members.get?_filter members fun name =>
    decide (∃ other ∈ kept, other.part = key.part ∧ other.name = name)]
  simp only [decide_eq_true_eq, hkept]

/-- A section is read as what it holds, be it in place, missing or null. -/
theorem sectionOf_of_sectionHas {data : Members} {part : Text} {members : Members}
    (h : SectionHas data part members) (file : Text) :
    ∃ found, sectionOf data part file = .ok found ∧ ∀ key, found.get? key = members.get? key := by
  cases h with
  | object h hsame => exact ⟨_, sectionOf_eq_ok_iff.mpr (.object h), hsame⟩
  | missing h hnone => exact ⟨[], sectionOf_eq_ok_iff.mpr (.missing h), fun key => by rw [hnone]⟩
  | null h hnone => exact ⟨[], sectionOf_eq_ok_iff.mpr (.nothing h rfl), fun key => by rw [hnone]⟩

-- ---------------------------------------------------------------------------
-- What a section overrides
-- ---------------------------------------------------------------------------

section Kept

variable {p : Prop} [Decidable p] {part : Members} {key : Text}

/-- A list that is kept is read, and one that is not stays as it was. -/
theorem stringsAt_of_kept {texts : List Text} (base : List Text)
    (h : part.get? key = if p then some (.arr (texts.map .str)) else none) :
    stringsAt part key base = .ok (if p then texts else base) := by
  rw [stringsAt, h]
  by_cases hp : p
  · simp [hp, strings?_eq_some_iff.mpr rfl]
  · simp [hp]

theorem textAt_of_kept {t : Text} (base : Text)
    (h : part.get? key = if p then some (.str t) else none) :
    textAt part key base = if p then t else base := by
  rw [textAt, h]
  by_cases hp : p
  · simp [hp, Value.display]
  · simp [hp]

theorem textSet_of_kept {texts base : List Text} (h : Ascending texts) (hbase : Ascending base) :
    textSet (if p then texts else base) = if p then texts else base := by
  split
  · exact textSet_eq_self h
  · exact textSet_eq_self hbase

end Kept

/-- Groups that were written are read. -/
theorem groupsOf_written (groups : List (List Text)) :
    groupsOf (.arr (groups.map fun group => .arr (group.map .str))) = .ok groups := by
  refine (mapM_eq_ok_iff_eq_map ?_).mpr rfl
  intro group texts
  rw [← strings?_eq_some_iff]
  cases strings? group <;> simp

variable {kept : Finset RuleKey} {found : Members}

namespace ForwarderRules

theorem override_excerpt {base rules : ForwarderRules} (hbase : base.Legal) (hrules : rules.Legal)
    (h : ∀ key, found.get? key = (keptMembers kept "forwarder" rules.toValue).get? key) :
    base.override found = .ok
      ⟨if .forwarderVersion ∈ kept then rules.version else base.version,
       if .names ∈ kept then rules.names else base.names,
       if .exactSignatures ∈ kept then rules.exactSignatures else base.exactSignatures,
       if .groups ∈ kept then rules.groups else base.groups⟩ := by
  -- what the section says under each of its keys
  have hversion : found.get? "version" =
      if .forwarderVersion ∈ kept then some (.str rules.version) else none :=
    (h _).trans (get?_keptMembers kept .forwarderVersion _)
  have hnames : found.get? "names" =
      if .names ∈ kept then some (.arr (rules.names.map .str)) else none :=
    (h _).trans (get?_keptMembers kept .names _)
  have hsignatures : found.get? "exact_signatures" =
      if .exactSignatures ∈ kept then some (.arr (rules.exactSignatures.map .str)) else none :=
    (h _).trans (get?_keptMembers kept .exactSignatures _)
  have hgroups : found.get? groupsKey =
      if .groups ∈ kept then some (.arr (rules.groups.map fun group => .arr (group.map .str)))
      else none :=
    (h _).trans (get?_keptMembers kept .groups _)
  have hlist : (found.get? groupsKey).bind Value.text? = none := by
    rw [hgroups]
    split <;> rfl
  rw [override_eq hlist, stringsAt_of_kept _ hnames, stringsAt_of_kept _ hsignatures,
    textAt_of_kept _ hversion, hgroups]
  by_cases hkept : .groups ∈ kept
  · simp only [hkept, if_true, groupsOf_written, bind, Except.bind,
      textSet_of_kept hrules.names hbase.names,
      textSet_of_kept hrules.exactSignatures hbase.exactSignatures]
  · simp only [hkept, if_false, pure, Except.pure, bind, Except.bind,
      textSet_of_kept hrules.names hbase.names,
      textSet_of_kept hrules.exactSignatures hbase.exactSignatures]

end ForwarderRules

namespace SourcePatterns

theorem override_excerpt {engine : Pattern.Engine} {base table : SourcePatterns}
    (hbase : base.Legal engine) (htable : table.Legal engine)
    (h : ∀ key, found.get? key = (keptMembers kept "source_patterns" table.toValue).get? key) :
    base.override engine.read found = .ok
      ⟨if .sourcesVersion ∈ kept then table.version else base.version,
       if .patterns ∈ kept then table.written else base.written,
       if .patterns ∈ kept then table.patterns else base.patterns⟩ := by
  have hversion : found.get? "version" =
      if .sourcesVersion ∈ kept then some (.str table.version) else none :=
    (h _).trans (get?_keptMembers kept .sourcesVersion _)
  have hpatterns : found.get? "patterns" =
      if .patterns ∈ kept then some (.arr (table.written.map .str)) else none :=
    (h _).trans (get?_keptMembers kept .patterns _)
  have hparsed : (if .patterns ∈ kept then table.written else base.written).mapM engine.read =
      .ok (if .patterns ∈ kept then table.patterns else base.patterns) := by
    split
    · exact htable
    · exact hbase
  rw [override, stringsAt_of_kept _ hpatterns, textAt_of_kept _ hversion]
  show ofWritten _ _ _ = _
  rw [ofWritten, hparsed]

end SourcePatterns

-- ---------------------------------------------------------------------------
-- What a file overrides
-- ---------------------------------------------------------------------------

namespace RuleTables

/-- **A rule file overrides key by key.** A file with what legal tables have under some of the keys,
and with nothing else, loads as tables that agree with these under the keys it has, and with the
built-in tables under all others. With all keys it gives the tables back. Which patterns are legal
is for the engine to say, and this holds for every engine. -/
theorem load_excerpt (engine : Pattern.Engine) (tables : RuleTables) (kept : Finset RuleKey)
    (tree : FileTree) (file : Text) (data : Members) (hlegal : tables.Legal engine)
    (hread : tree.readJson tree.limits.ruleFile file = .ok (.obj data))
    (hexcerpt : IsExcerpt data tables kept) :
    (∃ loaded, (load engine tree (some file)).outcome = .ok loaded ∧
        (∀ key ∈ kept, key.Agree loaded tables) ∧ ∀ key ∉ kept, key.Agree loaded {}) ∧
      ((∀ key, key ∈ kept) → (load engine tree (some file)).outcome = .ok tables) := by
  have hfile : file ≠ [] := by
    rintro rfl
    cases hread
  obtain ⟨forwarder, hforwarder, hsame⟩ := sectionOf_of_sectionHas hexcerpt.forwarder file
  obtain ⟨sources, hsources, hsame'⟩ := sectionOf_of_sectionHas hexcerpt.sources file
  have hrules :=
    ForwarderRules.override_excerpt ForwarderRules.legal_standard hlegal.forwarder hsame
  have htable :=
    SourcePatterns.override_excerpt (SourcePatterns.legal_standard engine) hlegal.sources hsame'
  have hload : ∃ loaded, (load engine tree (some file)).outcome = .ok loaded ∧
      (∀ key ∈ kept, key.Agree loaded tables) ∧ ∀ key ∉ kept, key.Agree loaded {} := by
    rw [outcome_load hfile, hread]
    simp only [ofValue, hforwarder, hsources, hrules, htable, bind, Except.bind]
    refine ⟨_, rfl, ?_, ?_⟩
    · intro key hkey
      cases key <;> simp [RuleKey.Agree, hkey]
    · intro key hkey
      cases key <;> simp [RuleKey.Agree, hkey]
  refine ⟨hload, ?_⟩
  intro hall
  obtain ⟨loaded, hloaded, hagree, -⟩ := hload
  rw [hloaded, eq_of_agree fun key => hagree key (hall key)]

/-- Tables without anything in them. -/
def bareTables : RuleTables := ⟨⟨"", [], [], []⟩, ⟨"", [], []⟩⟩

theorem legal_bareTables (engine : Pattern.Engine) : bareTables.Legal engine :=
  ⟨⟨.nil, .nil⟩, rfl⟩

/-- A rule file with this content. -/
def fileOf (data : Members) : FileTree :=
  { entries := [("r.json", .ofText (Json.render (.obj data)))] }

/-- No patterns, and a section that has lost all its keys. -/
def patternsOnly : Members :=
  [("source_patterns", .obj [("patterns", .arr [])]), ("forwarder", .null)]

def bareSections : Members :=
  [("forwarder", bareTables.forwarder.toValue), ("source_patterns", bareTables.sources.toValue)]

set_option maxRecDepth 8000 in
/-- Empty lists are no missing lists. -/
theorem load_excerpt_bare :
    (∃ loaded, (load .standard (fileOf patternsOnly) (some ("r.json" : Text))).outcome =
          .ok loaded ∧
        loaded.sources.written = [] ∧
        loaded.forwarder.names = ForwarderRules.standard.names) ∧
      (load .standard (fileOf bareSections) (some ("r.json" : Text))).outcome =
        .ok bareTables := by
  constructor
  · have hread : (fileOf patternsOnly).readJson (fileOf patternsOnly).limits.ruleFile "r.json" =
        .ok (.obj patternsOnly) := by
      with_unfolding_all rfl
    obtain ⟨loaded, hloaded, hkept, hothers⟩ :=
      (load_excerpt .standard bareTables {.patterns} (fileOf patternsOnly) "r.json" patternsOnly
        (legal_bareTables _) hread ⟨.null rfl rfl, .object rfl fun _ => rfl⟩).1
    exact ⟨loaded, hloaded, (hkept .patterns (by decide)).1, hothers .names (by decide)⟩
  · have hread : (fileOf bareSections).readJson (fileOf bareSections).limits.ruleFile "r.json" =
        .ok (.obj bareSections) := by
      with_unfolding_all rfl
    exact (load_excerpt .standard bareTables
      {.forwarderVersion, .names, .exactSignatures, .groups, .sourcesVersion, .patterns}
      (fileOf bareSections) "r.json" bareSections (legal_bareTables _) hread
      ⟨.object rfl fun _ => rfl, .object rfl fun _ => rfl⟩).2 fun key => by cases key <;> decide

end RuleTables
end DelegateAudit

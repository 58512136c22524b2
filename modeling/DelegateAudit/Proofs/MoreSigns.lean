import DelegateAudit.Proofs.Accounting
import DelegateAudit.Proofs.Parameters
import DelegateAudit.Proofs.StrictScan

/-!
# DelegateAudit — more signs never lower the risk

Of a contract more may become known: its ABI gets entries, its metadata list further sources,
and the rule tables recognise more than before. None of this can talk a finding down. The
analysis has places where it could go wrong: entries and sources are gone through in order, a
source that was listed is not looked at again, and a mode decides twice about an artifact. So
the comparison goes through the meaning of each stage, which does not know any order:

* the flags of a surface ask whether *some* entry sets them (`Abi.analyze_flags`);
* the source signs ask whether *some* source shows a pattern (`Scanner.confirmed_iff`);
* a tier asks for a number of such signs at once (`one_le_rank_classify_iff`,
  `two_le_rank_classify_iff`).

Each of these stays true when there is more to choose from.

Main result:

* `Scanner.assess_mono` — with more rules, more entries and more sources the tier is at least
  the one before, and an artifact that had a record has one again.
-/

namespace DelegateAudit

open Json

-- ---------------------------------------------------------------------------
-- More to choose from
-- ---------------------------------------------------------------------------

/-- The second tables recognise at least what the first ones do. The versions play no part. -/
structure RuleTables.Within (rules more : RuleTables) : Prop where
  names      : rules.forwarder.names ⊆ more.forwarder.names
  signatures : rules.forwarder.exactSignatures ⊆ more.forwarder.exactSignatures
  groups     : rules.forwarder.groups ⊆ more.forwarder.groups
  patterns   : rules.sources.patterns ⊆ more.sources.patterns

/-- The same contract, of which more ABI entries and more sources are known; the new ones may
stand anywhere between the old ones. -/
structure Artifact.Within (artifact more : Artifact) : Prop where
  same    : more = { artifact with abi := more.abi, importedSources := more.importedSources }
  abi     : artifact.abi.Sublist more.abi
  sources : artifact.importedSources.Sublist more.importedSources

/-- Tables that are made from more written patterns search for more. -/
theorem SourcePatterns.patterns_subset {read : Pattern.Reader} {version version' : Text}
    {written written' : List Text} {table table' : SourcePatterns}
    (h : ofWritten read version written = .ok table)
    (h' : ofWritten read version' written' = .ok table') (hsub : written ⊆ written') :
    table.patterns ⊆ table'.patterns := by
  -- a table that was made holds the reading of every text it was made from
  have hread : ∀ {version : Text} {written : List Text} {table : SourcePatterns},
      ofWritten read version written = .ok table → written.mapM read = .ok table.patterns := by
    intro version written table h
    unfold ofWritten at h
    split at h
    · next patterns hpatterns =>
      cases h
      exact hpatterns
    · cases h
    · cases h
  intro pattern hpattern
  obtain ⟨text, htext, hparse⟩ := (results_of_mapM (hread h)).2 pattern hpattern
  have hmem : read text ∈ table'.patterns.map .ok := by
    rw [← mapM_eq_ok_iff.mp (hread h')]
    exact List.mem_map_of_mem (hsub htext)
  rw [hparse] at hmem
  obtain ⟨other, hother, heq⟩ := List.mem_map.mp hmem
  cases heq
  exact hother

-- ---------------------------------------------------------------------------
-- The stages
-- ---------------------------------------------------------------------------

theorem Abi.IsForwarderEntry.mono {rules more : RuleTables} (h : rules.Within more) {v : Value}
    (hv : IsForwarderEntry rules.forwarder v) : IsForwarderEntry more.forwarder v := by
  obtain ⟨entry, rfl, htype, hpure, hview, hnamed | hexact | ⟨group, hgroup, hall⟩⟩ := hv
  · exact ⟨entry, rfl, htype, hpure, hview, .inl (h.names hnamed)⟩
  · exact ⟨entry, rfl, htype, hpure, hview, .inr (.inl (h.signatures hexact))⟩
  · exact ⟨entry, rfl, htype, hpure, hview, .inr (.inr ⟨group, h.groups hgroup, hall⟩)⟩

/-- Which files a source path may mean does not depend on the patterns. -/
theorem SourceMatcher.Candidate.withPatterns {m : SourceMatcher} {source : Text} {path : Path}
    (h : m.Candidate source path) (patterns : SourcePatterns) :
    Candidate { m with patterns } source path := by
  cases h with
  | direct hfile => exact .direct hfile
  | namesake hfile hnamed hpath => exact .namesake hfile hnamed hpath

theorem SourceMatcher.SourceShows.mono {m : SourceMatcher} {source : Text}
    (h : m.SourceShows source) {more : SourcePatterns}
    (hsub : m.patterns.patterns ⊆ more.patterns) :
    SourceShows { m with patterns := more } source := by
  obtain ⟨path, hcandidate, content, hread, line, hline, pattern, hpattern, hsearch⟩ := h
  refine ⟨path, hcandidate.withPatterns more, content, hread, line, hline, pattern, ?_, hsearch⟩
  exact hsub hpattern

theorem Artifact.Confirmed.mono {artifact more : Artifact} (h : artifact.Within more)
    {m : SourceMatcher} {patterns : SourcePatterns}
    (hsub : m.patterns.patterns ⊆ patterns.patterns) (hconfirmed : artifact.Confirmed m) :
    more.Confirmed { m with patterns } := by
  obtain ⟨source, hcited, hshows⟩ := hconfirmed
  refine ⟨source, ?_, hshows.mono hsub⟩
  rcases hcited with ⟨hprimary, hne⟩ | ⟨himport, hending⟩
  · have hsame : more.primarySource = artifact.primarySource := by rw [h.same]
    exact .inl ⟨hsame.trans hprimary, hne⟩
  · exact .inr ⟨h.sources.subset himport, hending⟩

theorem Tier.two_le_rank_iff {tier : Tier} : 2 ≤ tier.rank ↔ tier = .likelyReachable := by
  cases tier <;> decide

/-- Running code that delegates and one sign other than a fallback lift a contract above the
lowest tier. -/
theorem one_le_rank_classify_iff {evidence : Evidence} {surface : Abi.Surface} {sourceHit : Bool}
    {importHits : List Text} :
    1 ≤ (classify evidence surface sourceHit importHits).rank ↔
      evidence.runtimeStripped = true ∧
        (surface.hasForwarder = true ∨ sourceHit = true ∨ importHits ≠ []) := by
  obtain ⟨runtimeStripped, _, _, _⟩ := evidence
  obtain ⟨hasForwarder, hasFallback, _⟩ := surface
  cases importHits <;> cases runtimeStripped <;> cases hasForwarder <;> cases hasFallback <;>
    cases sourceHit <;> simp [classify, Tier.rank]

theorem two_le_rank_classify_iff {evidence : Evidence} {surface : Abi.Surface} {sourceHit : Bool}
    {importHits : List Text} :
    2 ≤ (classify evidence surface sourceHit importHits).rank ↔
      evidence.runtimeStripped = true ∧
        (surface.hasFallback = true ∨ surface.hasForwarder = true) ∧
        (sourceHit = true ∨ importHits ≠ []) := by
  rw [Tier.two_le_rank_iff, classify_eq_likelyReachable_iff]

/-- The tier never falls when no sign is lost. -/
theorem classify_rank_mono {evidence : Evidence} {surface surface' : Abi.Surface}
    {sourceHit sourceHit' : Bool} {importHits importHits' : List Text}
    (hforwarder : surface.hasForwarder = true → surface'.hasForwarder = true)
    (hfallback : surface.hasFallback = true → surface'.hasFallback = true)
    (hconfirmed : sourceHit = true ∨ importHits ≠ [] → sourceHit' = true ∨ importHits' ≠ []) :
    (classify evidence surface sourceHit importHits).rank ≤
      (classify evidence surface' sourceHit' importHits').rank := by
  have hone : 1 ≤ (classify evidence surface sourceHit importHits).rank →
      1 ≤ (classify evidence surface' sourceHit' importHits').rank := by
    rw [one_le_rank_classify_iff, one_le_rank_classify_iff]
    rintro ⟨hruns, hsign⟩
    exact ⟨hruns, hsign.imp hforwarder hconfirmed⟩
  have htwo : 2 ≤ (classify evidence surface sourceHit importHits).rank →
      2 ≤ (classify evidence surface' sourceHit' importHits').rank := by
    rw [two_le_rank_classify_iff, two_le_rank_classify_iff]
    rintro ⟨hruns, hway, hsource⟩
    exact ⟨hruns, hway.imp hfallback hforwarder, hconfirmed hsource⟩
  -- there is no tier above the third
  have hmost : (classify evidence surface sourceHit importHits).rank ≤ 2 := by
    cases classify evidence surface sourceHit importHits <;> decide
  omega

-- ---------------------------------------------------------------------------
-- Artifacts
-- ---------------------------------------------------------------------------

namespace Scanner

variable {s : Scanner} {tree : FileTree} {rules : RuleTables} {artifact more : Artifact}

theorem correlate_mono (hrules : s.rules.Within rules) (hartifact : artifact.Within more)
    {evidence : Evidence} {record record' : Record}
    (h : (s.correlate tree artifact evidence).outcome = .ok record)
    (h' : (({ s with rules } : Scanner).correlate tree more evidence).outcome = .ok record') :
    record.tier.rank ≤ record'.tier.rank := by
  obtain ⟨surface, sourceHit, importHits, habi, hmain, himports, rfl⟩ := correlate_eq_ok_iff.mp h
  obtain ⟨surface', sourceHit', importHits', habi', hmain', himports', rfl⟩ :=
    correlate_eq_ok_iff.mp h'
  obtain ⟨hfallback, hforwarder⟩ := Abi.analyze_flags habi
  obtain ⟨hfallback', hforwarder'⟩ := Abi.analyze_flags habi'
  apply classify_rank_mono
  · rw [hforwarder, hforwarder']
    rintro ⟨entry, hentry, hkind⟩
    exact ⟨entry, hartifact.abi.subset hentry, hkind.mono hrules⟩
  · rw [hfallback, hfallback']
    rintro ⟨entry, hentry, hkind⟩
    exact ⟨entry, hartifact.abi.subset hentry, hkind⟩
  · rw [confirmed_iff hmain himports, confirmed_iff hmain' himports']
    intro hconfirmed
    exact hconfirmed.mono hartifact hrules.patterns

/-- What a mode wants of one tier it wants of every higher one. -/
theorem wantsTier_mono {mode : Mode} {tier higher : Tier} (h : tier.rank ≤ higher.rank)
    (hwants : mode.wantsTier tier = true) : mode.wantsTier higher = true := by
  unfold Mode.wantsTier at hwants ⊢
  rw [Bool.or_eq_true, decide_eq_true_eq, decide_eq_true_eq] at hwants ⊢
  refine hwants.imp_right ?_
  rintro rfl
  exact Tier.two_le_rank_iff.mp h

/-- **More signs never lower the risk.** If both assessments of the most generous mode end
without a fault, each gives a record, and the tier of the second is at least that of the first. In
every mode, an artifact with a record has one again unless something goes wrong, of at least the
same tier. -/
theorem assess_mono (s : Scanner) (rules : RuleTables) (tree : FileTree)
    (artifact more : Artifact) (hrules : s.rules.Within rules) (hartifact : artifact.Within more) :
    (∀ found found', s.mode = .all → (s.assess tree artifact).outcome = .ok found →
        (({ s with rules } : Scanner).assess tree more).outcome = .ok found' →
        ∃ record record', found = some record ∧ found' = some record' ∧
          record.tier.rank ≤ record'.tier.rank) ∧
      ∀ record, (s.assess tree artifact).outcome = .ok (some record) →
        (∀ fault, (({ s with rules } : Scanner).assess tree more).outcome ≠ .error fault) →
        ∃ record', (({ s with rules } : Scanner).assess tree more).outcome = .ok (some record') ∧
          record.tier.rank ≤ record'.tier.rank := by
  have hkeeps : ∀ record found', (s.assess tree artifact).outcome = .ok (some record) →
      (({ s with rules } : Scanner).assess tree more).outcome = .ok found' →
      ∃ record', found' = some record' ∧ record.tier.rank ≤ record'.tier.rank := by
    intro record found' h h'
    obtain ⟨evidence, hevidence, hwants, hcorrelate, htier⟩ := assess_eq_some_iff.mp h
    -- the code is the same, so the first filter lets the artifact through again
    have hcode : (s.disassembler.evidence more.path more.runtime more.creation).outcome =
        .ok evidence := by
      rw [hartifact.same]
      exact hevidence
    rw [outcome_assess] at h'
    obtain ⟨other, hother, h'⟩ := Run.except_bind_eq_ok.mp h'
    cases hother.symm.trans hcode
    rw [if_pos hwants] at h'
    obtain ⟨record', hcorrelate', h'⟩ := Run.except_bind_eq_ok.mp h'
    have hrank := correlate_mono hrules hartifact hcorrelate hcorrelate'
    rw [if_pos (wantsTier_mono hrank htier)] at h'
    cases h'
    exact ⟨record', rfl, hrank⟩
  constructor
  · intro found found' hmode h h'
    rcases found with _ | record
    · exact absurd h (assess_ne_none hmode artifact)
    · obtain ⟨record', hrecord', hrank⟩ := hkeeps record found' h h'
      exact ⟨record, record', rfl, hrecord', hrank⟩
  · intro record h hfine
    cases h' : (({ s with rules } : Scanner).assess tree more).outcome with
    | error fault => exact absurd h' (hfine fault)
    | ok found' =>
      obtain ⟨record', rfl, hrank⟩ := hkeeps record found' h h'
      exact ⟨record', rfl, hrank⟩

/-- A project whose only source calls by a name that the built-in patterns do not have. -/
def relayTree : FileTree := { entries := [("src", .dir [("P.sol", .ofText "t.callcode(d);")])] }

def relayAbi : Value := .obj [("type", .str "function"), ("name", .str "relay")]

def relayArtifact : Artifact where
  path := "out/P.json"
  contractName := "P"
  runtime := some "0x60f4"
  creation := none
  abi := [relayAbi]
  primarySource := none
  importedSources := ["src/P.sol"]

/-- The same with an entry before and a source on either side. -/
def knownRelay : Artifact :=
  { relayArtifact with
    abi := [.obj [("type", .str "receive")], relayAbi]
    importedSources := ["lib/Q.sol", "src/P.sol", "README"] }

/-- The built-in patterns and one more. -/
def relayPatterns : List Text := SourcePatterns.standardWritten ++ [("\\.callcode\\(" : Text)]

/-- The built-in tables, a name and a pattern more. -/
def relayRules : RuleTables where
  forwarder := { ForwarderRules.standard with
    names := textSet ("relay" :: ForwarderRules.standard.names) }
  sources := (SourcePatterns.ofWritten Pattern.Engine.standard.read "2" relayPatterns).toOption.getD
    .standard

theorem assess_mono_relay :
    relayArtifact.Within knownRelay ∧ RuleTables.Within {} relayRules ∧
      ∃ record record',
        (generousScanner.assess relayTree relayArtifact).outcome = .ok (some record) ∧
        (({ generousScanner with rules := relayRules } : Scanner).assess relayTree
          knownRelay).outcome = .ok (some record') ∧
        record.tier = .low ∧ record'.tier = .likelyReachable ∧
        record.tier.rank ≤ record'.tier.rank := by
  have hartifact : relayArtifact.Within knownRelay :=
    ⟨rfl, .cons _ (.refl _), .cons _ (.cons_cons _ (.cons _ .slnil))⟩
  have hrules : RuleTables.Within {} relayRules := by
    refine ⟨by decide +kernel, List.Subset.refl _, List.Subset.refl _, ?_⟩
    have hold : SourcePatterns.ofWritten Pattern.Engine.standard.read "1"
        SourcePatterns.standardWritten = .ok .standard := by
      rw [SourcePatterns.ofWritten, Pattern.Engine.standard.knowsStandard]
      rfl
    have hread : (SourcePatterns.ofWritten Pattern.Engine.standard.read "2" relayPatterns).isOk =
        true := by decide +kernel
    have hnew : SourcePatterns.ofWritten Pattern.Engine.standard.read "2" relayPatterns =
        .ok relayRules.sources := by
      rw [relayRules]
      cases hmade : SourcePatterns.ofWritten Pattern.Engine.standard.read "2" relayPatterns with
      | error fault =>
        rw [hmade] at hread
        cases hread
      | ok table => rfl
    exact SourcePatterns.patterns_subset hold hnew (List.subset_append_left _ _)
  have hlow : (generousScanner.assess relayTree relayArtifact).outcome.map
      (Option.map Record.tier) = .ok (some .low) := by decide +kernel
  have hlikely : (({ generousScanner with rules := relayRules } : Scanner).assess relayTree
      knownRelay).outcome.map (Option.map Record.tier) = .ok (some .likelyReachable) := by
    decide +kernel
  rcases hassess : (generousScanner.assess relayTree relayArtifact).outcome with
    fault | _ | record
  · rw [hassess] at hlow
    cases hlow
  · rw [hassess] at hlow
    cases hlow
  · rw [hassess] at hlow
    obtain ⟨record', hrecord', hrank⟩ :=
      (assess_mono generousScanner relayRules relayTree relayArtifact knownRelay hrules
        hartifact).2 record hassess fun fault hfault => by
          rw [hfault] at hlikely
          cases hlikely
    rw [hrecord'] at hlikely
    refine ⟨hartifact, hrules, record, record', rfl, hrecord', ?_, ?_, hrank⟩
    · exact Option.some.inj (Except.ok.inj hlow)
    · exact Option.some.inj (Except.ok.inj hlikely)

end Scanner
end DelegateAudit

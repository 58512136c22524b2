import DelegateAudit.Json.Writer
import DelegateAudit.Proofs.ProperTree
import DelegateAudit.Proofs.Sources
import DelegateAudit.Proofs.Verdict

/-!
# DelegateAudit — no artifact has a say in another

Whatever is written into one artifact, a scan tells the same of all others: the verdict on a file
depends on its own content and on the sources that its artifact cites, and nothing is carried
from one file to the next. The one way in which an artifact matters to another is that the other
takes it for a source.

Main results:

* `SourceMatcher.matchesSource_congr` — looking up a source is not disturbed by a change
  elsewhere, hence
* `Scanner.verdict_congr` — the verdict on an artifact.
* `Scanner.scan_isolates` — two scans, before and after other content is written into an
  artifact, differ by the verdicts on this artifact alone.
-/

namespace DelegateAudit

-- ---------------------------------------------------------------------------
-- Sources
-- ---------------------------------------------------------------------------

namespace SourceMatcher

variable {m : SourceMatcher} {spot : List Text} {content : Bytes} {changed : FileTree}

theorem anyMatches_congr (h : FileTree.Replaced spot content m.tree changed) {paths : List Path}
    (hpaths : ∀ path ∈ paths, path.toText.spot? ≠ some spot) :
    anyMatches { m with tree := changed } paths = m.anyMatches paths := by
  induction paths with
  | nil => rfl
  | cons path rest ih =>
    obtain ⟨hpath, hrest⟩ := List.forall_mem_cons.mp hpaths
    have hfile : fileMatches { m with tree := changed } path = m.fileMatches path := by
      rw [fileMatches, fileMatches, h.read_eq hpath]
    rw [anyMatches, anyMatches, hfile, ih hrest]

theorem matchesSource_congr (h : FileTree.Replaced spot content m.tree changed)
    {named : Option Text}
    (hfree : ∀ source path, named = some source → source ≠ [] → m.Candidate source path →
      path.toText.spot? ≠ some spot) :
    (matchesSource { m with tree := changed } named).outcome = (m.matchesSource named).outcome := by
  rcases named with _ | _ | ⟨c, rest⟩
  · rfl
  · rfl
  · have hopen : ∀ other : SourceMatcher, other.matchesSource (some (c :: rest)) =
        other.candidates (c :: rest) >>= other.anyMatches := fun _ => rfl
    rw [hopen, hopen, candidates_congr h.shape.symm (c :: rest)]
    cases hfound : (m.candidates (c :: rest)).outcome with
    | error fault => rw [Run.outcome_bind_of_error hfound, Run.outcome_bind_of_error hfound]
    | ok found =>
      rw [Run.outcome_bind_of_ok hfound, Run.outcome_bind_of_ok hfound, anyMatches_congr h]
      intro path hpath
      exact hfree _ path rfl (List.cons_ne_nil _ _) ((mem_candidates_iff hfound).mp hpath)

theorem addImportHits_congr (h : FileTree.Replaced spot content m.tree changed)
    {sources : List Text}
    (hfree : ∀ source path, source ∈ sources → (".sol" : Text) <:+ source →
      m.Candidate source path → path.toText.spot? ≠ some spot) (hits : List Text) :
    (addImportHits { m with tree := changed } hits sources).outcome =
      (m.addImportHits hits sources).outcome := by
  induction sources generalizing hits with
  | nil => rfl
  | cons source rest ih =>
    have hrest := ih fun other path hother => hfree other path (List.mem_cons_of_mem _ hother)
    rw [addImportHits, addImportHits]
    by_cases hskip : (!(".sol" : Text).isSuffixOf source || hits.elem source) = true
    · rw [if_pos hskip, if_pos hskip]
      exact hrest hits
    · rw [if_neg hskip, if_neg hskip]
      have hending : (".sol" : Text) <:+ source := by
        rw [passedOver_iff, not_or, not_not] at hskip
        exact hskip.1
      have hmatch := matchesSource_congr h fun other path hother _ =>
        hfree other path (Option.some.inj hother ▸ List.mem_cons_self)
          (Option.some.inj hother ▸ hending)
      rw [Run.outcome_bind, Run.outcome_bind, hmatch]
      congr 1
      funext hit
      cases hit with
      | true => exact hrest _
      | false => exact hrest _

end SourceMatcher

-- ---------------------------------------------------------------------------
-- One artifact
-- ---------------------------------------------------------------------------

/-- The source is one that is looked up for the artifact. -/
def Artifact.Cites (artifact : Artifact) (source : Text) : Prop :=
  artifact.primarySource = some source ∧ source ≠ [] ∨
    source ∈ artifact.importedSources ∧ (".sol" : Text) <:+ source

namespace Scanner

variable {s : Scanner} {tree changed : FileTree} {spot : List Text} {content : Bytes}

/-- A file that the artifact cites a source for is the one at the path, however both are
written. -/
def Consults (s : Scanner) (tree : FileTree) (artifact : Artifact) (file : Path) : Prop :=
  ∃ source path, artifact.Cites source ∧ (s.sources tree).Candidate source path ∧
    path.toText.spot? = file.toText.spot?

theorem correlate_congr (h : FileTree.Replaced spot content tree changed) {artifact : Artifact}
    (hfree : ∀ source path, artifact.Cites source → (s.sources tree).Candidate source path →
      path.toText.spot? ≠ some spot) (evidence : Evidence) :
    (s.correlate changed artifact evidence).outcome =
      (s.correlate tree artifact evidence).outcome := by
  have hsources : FileTree.Replaced spot content (s.sources tree).tree changed := h
  have hmain : ((s.sources changed).matchesSource artifact.primarySource).outcome =
      ((s.sources tree).matchesSource artifact.primarySource).outcome :=
    SourceMatcher.matchesSource_congr hsources fun source path hsource hne =>
      hfree source path (.inl ⟨hsource, hne⟩)
  have himports : ((s.sources changed).importHits artifact.importedSources).outcome =
      ((s.sources tree).importHits artifact.importedSources).outcome :=
    SourceMatcher.addImportHits_congr hsources (fun source path hsource hending =>
      hfree source path (.inr ⟨hsource, hending⟩)) []
  simp only [correlate, Run.outcome_bind, hmain, himports, h.limits_eq]

/-- The verdict on a file is the same if neither the file nor a source of its artifact is
changed. -/
theorem verdict_congr (h : FileTree.Replaced spot content tree changed) {path : Text}
    (hpath : path.spot? ≠ some spot)
    (hfree : ∀ artifact, (tree.readArtifact path).outcome = .ok artifact →
      ∀ source candidate, artifact.Cites source → (s.sources tree).Candidate source candidate →
        candidate.toText.spot? ≠ some spot) :
    s.verdict changed path = s.verdict tree path := by
  have hread : changed.readArtifact path = tree.readArtifact path := by
    rw [FileTree.readArtifact, FileTree.readArtifact, FileTree.readJson, FileTree.readJson,
      h.read_eq hpath, h.limits_eq]
  rw [verdict, verdict, hread]
  cases hartifact : (tree.readArtifact path).outcome with
  | error fault => rfl
  | ok artifact =>
    have hassess : (s.assess changed artifact).outcome = (s.assess tree artifact).outcome := by
      simp only [outcome_assess, correlate_congr h (hfree artifact hartifact)]
    simp only [hassess]

end Scanner

-- ---------------------------------------------------------------------------
-- Two scans
-- ---------------------------------------------------------------------------

/-- Findings that differ by the verdicts on the file at one path: the records of all other files
stand around the one of this file as before, and the counts change by those of this file. -/
structure Findings.Exchanged (path : Text) (own own' : Option Record × Summary)
    (found found' : Findings) : Prop where
  records : ∃ before after,
    found.records = before ++ own.1.toList ++ after ∧
    found'.records = before ++ own'.1.toList ++ after ∧
    ∀ record ∈ before ++ after, record.artifactPath ≠ path
  counts : found'.summary.merge own.2 = found.summary.merge own'.2

/-- If a list without repetitions is mapped in two ways that differ at one item, so do the
results. -/
theorem exists_map_exchanged {α β : Type} {f g : α → β} {items : List α} {item : α}
    (hnodup : items.Nodup) (hitem : item ∈ items)
    (hsame : ∀ other ∈ items, other ≠ item → g other = f other) :
    ∃ before after, items.map f = before ++ f item :: after ∧
      items.map g = before ++ g item :: after ∧
      ∀ b ∈ before ++ after, ∃ other ∈ items, other ≠ item ∧ f other = b := by
  obtain ⟨before, after, rfl⟩ := List.append_of_mem hitem
  have hother : ∀ other ∈ before ++ after, other ∈ before ++ item :: after ∧ other ≠ item := by
    intro other hother
    refine ⟨?_, ?_⟩
    · rw [List.mem_append] at hother ⊢
      exact hother.imp_right (List.mem_cons_of_mem item)
    · rintro rfl
      exact (List.nodup_cons.mp (List.nodup_middle.mp hnodup)).1 hother
  have hmap : (before ++ after).map g = (before ++ after).map f := by
    refine List.map_congr_left fun other hmem => ?_
    exact hsame other (hother other hmem).1 (hother other hmem).2
  rw [List.map_append, List.map_append] at hmap
  obtain ⟨hbefore, hafter⟩ := List.append_inj hmap (by simp)
  refine ⟨before.map f, after.map f, by simp, by simp [hbefore, hafter], ?_⟩
  intro b hb
  rw [← List.map_append] at hb
  obtain ⟨other, hmem, rfl⟩ := List.mem_map.mp hb
  exact ⟨other, (hother other hmem).1, (hother other hmem).2, rfl⟩

theorem Summary.merge_right_comm (counts more extra : Summary) :
    (counts.merge more).merge extra = (counts.merge extra).merge more := by
  simp [Summary.merge, add_right_comm]

/-- Counts that are merged later can be merged first. -/
theorem Findings.summary_foldl_merge {verdicts : List (Option Record × Summary)}
    {found other : Findings} {extra : Summary}
    (h : found.summary.merge extra = other.summary) :
    (verdicts.foldl add found).summary.merge extra = (verdicts.foldl add other).summary := by
  induction verdicts generalizing found other with
  | nil => exact h
  | cons verdict rest ih =>
    rw [List.foldl_cons, List.foldl_cons]
    apply ih
    show (found.summary.merge verdict.2).merge extra = other.summary.merge verdict.2
    rw [Summary.merge_right_comm, h]

/-- Verdicts of which one is another are added up. -/
theorem Findings.exchanged_foldl {path : Text} {before after : List (Option Record × Summary)}
    (own own' : Option Record × Summary)
    (hpath : ∀ verdict ∈ before ++ after, ∀ record, verdict.1 = some record →
      record.artifactPath ≠ path)
    {start : Findings} (hstart : start.records = []) :
    Exchanged path own own' ((before ++ own :: after).foldl add start)
      ((before ++ own' :: after).foldl add start) := by
  constructor
  · refine ⟨before.flatMap fun verdict => verdict.1.toList,
      after.flatMap fun verdict => verdict.1.toList, ?_, ?_, ?_⟩
    · rw [records_foldl, hstart, List.nil_append, List.flatMap_append, List.flatMap_cons,
        List.append_assoc]
    · rw [records_foldl, hstart, List.nil_append, List.flatMap_append, List.flatMap_cons,
        List.append_assoc]
    · intro record hrecord
      rw [← List.flatMap_append] at hrecord
      obtain ⟨verdict, hverdict, hrecord⟩ := List.mem_flatMap.mp hrecord
      exact hpath verdict hverdict record (Option.mem_toList.mp hrecord)
  · -- with both counts of the file the order no longer shows which verdict came first
    simp only [List.foldl_append, List.foldl_cons]
    generalize before.foldl add start = sofar
    calc (after.foldl add (sofar.add own')).summary.merge own.2
        = (after.foldl add ((sofar.add own').add own)).summary := summary_foldl_merge rfl
      _ = (after.foldl add (sofar.add own)).summary.merge own'.2 :=
          (summary_foldl_merge (Summary.merge_right_comm _ _ _)).symm

namespace Scanner

/-- **Artifacts are isolated from each other.** Take an artifact that no other one consults, and
write anything into its file. Both scans end with findings, and these differ by the verdicts on the
file alone. -/
theorem scan_isolates (s : Scanner) (tree : FileTree) (root : Text) (onRecord : Record → Run Unit)
    (quiet : ∀ record, (onRecord record).outcome = .ok ())
    (hproper : FileTree.Proper tree.entries) (paths : List Path)
    (hpaths : (tree.artifacts root).outcome = .ok paths) (file : Path) (hfile : file ∈ paths)
    (hfree : ∀ other ∈ paths, other ≠ file → ∀ artifact,
      (tree.readArtifact other.toText).outcome = .ok artifact → ¬ s.Consults tree artifact file)
    (content : Bytes) :
    ∃ spot changed, file.toText.spot? = some spot ∧
      tree.write (Text.join "/" spot) (.file content) = .ok changed ∧
      changed.at? spot = some (.file content) ∧
      ∃ found found' own own',
        (s.scan tree root onRecord).outcome = .ok found ∧
        (s.scan changed root onRecord).outcome = .ok found' ∧
        (s.scanFile tree file.toText).outcome = .ok own ∧
        (s.scanFile changed file.toText).outcome = .ok own' ∧
        found.Exchanged file.toText own own' found' := by
  obtain ⟨hnodup, hspots, hapart⟩ := FileTree.artifacts_apart hproper hpaths
  obtain ⟨spot, old, hspot, hat⟩ := hspots file hfile
  obtain ⟨changed, hwrite, hreplaced⟩ := FileTree.write_replaces hproper hat content
  -- the other files get the verdicts that they had
  have hsame : ∀ other ∈ paths, other ≠ file →
      s.verdict changed other.toText = s.verdict tree other.toText := by
    intro other hmem hne
    refine verdict_congr hreplaced ?_ ?_
    · intro heq
      exact hne (hapart file hfile other hmem (heq.trans hspot.symm))
    · intro artifact hread source path hcites hcandidate heq
      exact hfree other hmem hne artifact hread
        ⟨source, path, hcites, hcandidate, heq.trans hspot.symm⟩
  have hpaths' : (changed.artifacts root).outcome = .ok paths := by
    rw [FileTree.artifacts_congr hreplaced.shape, hpaths]
  obtain ⟨before, after, hverdicts, hverdicts', hothers⟩ :=
    exists_map_exchanged hnodup hfile hsame
  refine ⟨spot, changed, hspot, hwrite, hreplaced.here, _, _, _, _,
    scan_of_artifacts quiet hpaths, scan_of_artifacts quiet hpaths',
    outcome_scanFile s tree file.toText, outcome_scanFile s changed file.toText, ?_⟩
  rw [hverdicts, hverdicts']
  refine Findings.exchanged_foldl _ _ ?_ rfl
  intro verdict hverdict record hrecord heq
  obtain ⟨other, hmem, hne, rfl⟩ := hothers verdict hverdict
  rw [verdict_artifactPath hrecord] at heq
  exact hne (hapart file hfile other hmem (by rw [heq]))

/-- Three contracts side by side; the last one has a source. -/
def neighbours : FileTree :=
  { entries := [("out", .dir
      [("A.json", .ofText (Json.render (.obj [("deployedBytecode", .str "0x60f4")]))),
       ("B.json", .ofText (Json.render (.obj [("deployedBytecode", .str "0x60f4")]))),
       ("C.json", .ofText (Json.render (.obj
         [("deployedBytecode", .str "0x60f4"), ("sourceName", .str "src/P.sol")])))]),
    ("src", .dir [("P.sol", .ofText "t.delegatecall(d);")])] }

def byteScanner : Scanner := { disassembler := byteDisassembler }

/-- What the artifact in a file cites, its main source first. -/
def citations (tree : FileTree) (path : Text) : Option (Option Text × List Text) :=
  (tree.readArtifact path).outcome.toOption.map fun artifact =>
    (artifact.primarySource, artifact.importedSources)

theorem neighbours_apart {other : Path} {artifact : Artifact}
    (hother : other ∈ ["out/A.json", "out/B.json", "out/C.json"].map fun t =>
      Path.ofText (Text.ofString t)) (hne : other ≠ Path.ofText "out/B.json")
    (hread : (neighbours.readArtifact other.toText).outcome = .ok artifact) :
    ¬ byteScanner.Consults neighbours artifact (Path.ofText "out/B.json") := by
  rintro ⟨source, path, hcites, hcandidate, hspot⟩
  have hcited : ∀ main imports, citations neighbours other.toText = some (main, imports) →
      artifact.primarySource = main ∧ artifact.importedSources = imports := by
    intro main imports h
    rw [citations, hread] at h
    simpa [Except.toOption] using h
  simp only [List.map_cons, List.map_nil, List.mem_cons, List.not_mem_nil, or_false] at hother
  rcases hother with rfl | rfl | rfl
  · obtain ⟨hmain, himports⟩ := hcited none [] (by decide +kernel)
    simp [Artifact.Cites, hmain, himports] at hcites
  · exact hne rfl
  · obtain ⟨hmain, himports⟩ := hcited (some "src/P.sol") [] (by decide +kernel)
    have hsource : source = "src/P.sol" ∧ source ≠ [] := by
      simpa [Artifact.Cites, hmain, himports, eq_comm] using hcites
    obtain ⟨rfl, -⟩ := hsource
    -- the source is where it is said to be, so this is the only candidate
    have hfound : ((byteScanner.sources neighbours).candidates "src/P.sol").outcome =
        .ok [Path.ofText "src/P.sol"] := by decide +kernel
    rw [← SourceMatcher.mem_candidates_iff hfound, List.mem_singleton] at hcandidate
    subst hcandidate
    exact absurd hspot (by decide +kernel)

theorem scan_isolates_neighbours :
    ∃ changed found found' own own',
      neighbours.write "out/B.json" (.file [0xff]) = .ok changed ∧
      (byteScanner.scan neighbours "out" fun _ => pure ()).outcome = .ok found ∧
      (byteScanner.scan changed "out" fun _ => pure ()).outcome = .ok found' ∧
      own.1.isSome = true ∧
      found.Exchanged "out/B.json" own own' found' := by
  have hproper : FileTree.Proper neighbours.entries := by
    refine .dir (by decide) (by decide) ?_ (.dir (by decide) (by decide) ?_ .nil)
    · exact .file (by decide) (by decide) (.file (by decide) (by decide)
        (.file (by decide) (by decide) .nil))
    · exact .file (by decide) (by decide) .nil
  have hpaths : (neighbours.artifacts "out").outcome =
      .ok (["out/A.json", "out/B.json", "out/C.json"].map fun t => Path.ofText (Text.ofString t)) :=
    FileTree.outcome_artifacts_of_sorted rfl (by decide +kernel) (by decide) (by decide)
  obtain ⟨spot, changed, hspot, hwrite, -, found, found', own, own', hscan, hscan', hown, -,
      hexchanged⟩ :=
    scan_isolates byteScanner neighbours "out" (fun _ => pure ()) (fun _ => rfl) hproper _ hpaths
      (Path.ofText "out/B.json") (by decide)
      (fun other hother hne artifact hread => neighbours_apart hother hne hread) [0xff]
  have hfile : (Path.ofText "out/B.json").toText.spot? =
      some [("out" : Text), ("B.json" : Text)] := by decide
  cases Option.some.inj (hspot.symm.trans hfile)
  have hrecord : ((byteScanner.scanFile neighbours (Path.ofText "out/B.json").toText).outcome.map
      fun own => own.1.isSome) = .ok true := by decide +kernel
  rw [hown] at hrecord
  exact ⟨changed, found, found', own, own', hwrite, hscan, hscan', Except.ok.inj hrecord,
    hexchanged⟩

end Scanner
end DelegateAudit

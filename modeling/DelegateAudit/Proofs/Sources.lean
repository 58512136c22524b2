import DelegateAudit.Source
import DelegateAudit.Proofs.FilesBelow

/-!
# DelegateAudit — which sources match

`SourceMatcher.Candidate` says which files a source path may mean, and `SourceMatcher.Shows`
what it takes for a file to match; neither mentions the search. A look-up that ends without a
fault finds exactly these files (`mem_candidates_iff`), and a source matches exactly if one of
them does (`matchesSource_iff`). The paths listed by `SourceMatcher.importHits` are then the
ones that end in `.sol` and match (`mem_importHits_iff`).

A file that cannot be read is no fault: it only does not match. Faults come from source paths that
are too long, from names that have wildcards in the wrong place, and from directories nested too
deep. A search by name that meets too long a path finds nothing at all, also where it had found
files before.
-/

namespace DelegateAudit.SourceMatcher

open FileTree

variable {m : SourceMatcher} {source : Text} {path : Path}

/-! ## Candidates -/

/-- A file name is the wanted one. A wanted name with wildcards stands for all names it matches,
and for none with two stars in a row; one without is the name as the file system stores it. -/
def FitsName (wanted name : Text) : Prop :=
  if Glob.isWild wanted then
    Text.contains "**" wanted = false ∧ Glob.matchesName wanted name = true
  else canName wanted = true ∧ name = wanted.stored

/-- A file below the source directory with the wanted name, where nothing stops the search for it.
Its path ends in the name as it was asked for, or with wildcards in the name as it is. -/
def Namesake (m : SourceMatcher) (wanted : Text) (path : Path) : Prop :=
  ∃ entries dirs name, m.tree.directory? m.root = .ok (some entries) ∧
    (∀ fault, ¬ Obstacle m.root entries (m.nameSearch wanted) fault) ∧
    Holds entries (dirs ++ [name]) ∧ FitsName wanted name ∧
    path = m.root.below (dirs ++ [if Glob.isWild wanted then name else wanted])

/-- A file that a source path may mean: the one it leads to; if there is none, any file below the
source directory that has its last name. -/
inductive Candidate (m : SourceMatcher) (source : Text) : Path → Prop
  | direct (hfile : m.tree.isFile (m.root.join (Path.ofText source)) = .ok true) :
      Candidate m source (m.root.join (Path.ofText source))
  | namesake {path : Path} (hfile : m.tree.isFile (m.root.join (Path.ofText source)) = .ok false)
      (hnamed : (Path.ofText source).name ≠ [])
      (hpath : m.Namesake (Path.ofText source).name path) : Candidate m source path

/-- The search for a name wants the names that fit, unless the wildcards are misplaced. -/
theorem wanted_nameSearch_iff {wanted name : Text}
    (hgood : ¬ (Text.contains "**" wanted && wanted ≠ "**") = true) :
    (m.nameSearch wanted).wanted name = true ↔ FitsName wanted name := by
  by_cases hstars : wanted = "**"
  · subst hstars
    have hnone : ¬ FitsName "**" name := by
      rw [FitsName, if_pos (by decide)]
      rintro ⟨hstars, -⟩
      exact absurd hstars (by decide)
    simp [nameSearch, Search.directories, hnone]
  by_cases hwild : Glob.isWild wanted = true
  · have hnone : Text.contains "**" wanted = false := by simpa [hstars] using hgood
    simp [nameSearch, Search.fitting, FitsName, hstars, hwild, hnone]
  · simp [nameSearch, Search.named, FitsName, hstars, hwild]

theorem written_nameSearch (m : SourceMatcher) (wanted name : Text) :
    (m.nameSearch wanted).written name = if Glob.isWild wanted then name else wanted := by
  by_cases hstars : wanted = "**"
  · subst hstars
    rw [nameSearch, if_pos rfl, if_pos (by decide)]
    rfl
  · rw [nameSearch, if_neg hstars]
    by_cases hwild : Glob.isWild wanted = true
    · rw [if_pos hwild, if_pos hwild]
      rfl
    · rw [if_neg hwild, if_neg hwild]
      rfl

/-- A search by name is right: what it finds is all there is, and where the file system refuses,
there is nothing. -/
def FindsNamesakes (m : SourceMatcher) (wanted : Text) : Except Fault (List Path) → Prop
  | .ok found => ∀ path, path ∈ found ↔ m.Namesake wanted path
  | .error (.system _) => ∀ path, ¬ m.Namesake wanted path
  | .error _ => True

theorem namesakes_finds (m : SourceMatcher) (wanted : Text) :
    m.FindsNamesakes wanted (m.namesakes wanted) := by
  rw [namesakes]
  by_cases hbad : (Text.contains "**" wanted && wanted ≠ "**") = true
  · -- a fault, but none of the file system
    rw [if_pos hbad]
    trivial
  rw [if_neg hbad]
  rcases hroot : m.tree.directory? m.root with fault | _ | entries
  · rintro path ⟨_, _, _, hdir, -⟩
    simp [hroot] at hdir
  · intro path
    simp [Namesake, hroot]
  simp only
  cases hsearch : search m.root entries (m.nameSearch wanted) with
  | ok paths =>
    obtain ⟨hclear, rfl⟩ := search_eq_ok_iff.mp hsearch
    intro path
    simp [mem_found_iff, Namesake, hroot, hclear, wanted_nameSearch_iff hbad, written_nameSearch]
  | error fault =>
    cases fault with
    | tooDeep => trivial
    | system cause =>
      -- an obstacle was met, so nothing counts as a namesake
      rintro path ⟨_, _, _, hdir, hclear, -⟩
      rw [hroot, Except.ok.injEq, Option.some.injEq] at hdir
      subst hdir
      exact hclear _ (obstacle_of_search hsearch)

/-- Where there is no file at the path itself, the last name is looked up. What the file system
refuses is taken for nothing found. -/
theorem outcome_candidates_of_absent
    (hfile : m.tree.isFile (m.root.join (Path.ofText source)) = .ok false)
    (hnamed : (Path.ofText source).name ≠ []) :
    (m.candidates source).outcome =
      match m.namesakes (Path.ofText source).name with
      | .ok found => .ok found
      | .error (.system _) => .ok []
      | .error fault => .error fault := by
  have hempty : (Path.ofText source).name.isEmpty = false := by simpa using hnamed
  simp only [candidates, hfile, hempty, Bool.false_eq_true, if_false]
  cases m.namesakes (Path.ofText source).name with
  | ok found => rfl
  | error fault => cases fault <;> rfl

/-- A look-up that ends without a fault finds the candidates. -/
theorem mem_candidates_iff {found : List Path} (h : (m.candidates source).outcome = .ok found) :
    path ∈ found ↔ m.Candidate source path := by
  rcases hfile : m.tree.isFile (m.root.join (Path.ofText source)) with fault | _ | _
  · simp [candidates, hfile] at h
  · -- no file at the path itself, so the candidates are the namesakes
    have hcandidate : m.Candidate source path ↔
        (Path.ofText source).name ≠ [] ∧ m.Namesake (Path.ofText source).name path := by
      constructor
      · rintro (hdirect | ⟨-, hnamed, hpath⟩)
        · rw [hfile] at hdirect
          cases hdirect
        · exact ⟨hnamed, hpath⟩
      · rintro ⟨hnamed, hpath⟩
        exact .namesake hfile hnamed hpath
    rw [hcandidate]
    by_cases hnamed : (Path.ofText source).name = []
    · simp only [candidates, hfile, hnamed, List.isEmpty_nil, if_true] at h
      cases h
      simp [hnamed]
    · have hfinds := namesakes_finds m (Path.ofText source).name
      rw [outcome_candidates_of_absent hfile hnamed] at h
      rw [and_iff_right hnamed]
      cases hsearch : m.namesakes (Path.ofText source).name with
      | ok names =>
        rw [hsearch] at h hfinds
        cases h
        exact hfinds path
      | error fault =>
        rw [hsearch] at h hfinds
        cases fault with
        | system cause =>
          -- logged and taken for no candidates, and there are none
          cases h
          simpa using hfinds path
        | _ => cases h
  · simp only [candidates, hfile] at h
    cases h
    rw [List.mem_singleton]
    constructor
    · rintro rfl
      exact .direct hfile
    · rintro (_ | ⟨hother, -, -⟩)
      · rfl
      · rw [hfile] at hother
        cases hother

/-! ## Matches -/

/-- The file can be read, and one of its lines has one of the patterns. -/
def Shows (m : SourceMatcher) (path : Path) : Prop :=
  ∃ content, m.tree.read path.toText = .ok content ∧
    ∃ line ∈ content.decodeUtf8Lossy.unifyNewlines.fileLines,
      ∃ pattern ∈ m.patterns.patterns, pattern line = true

/-- A file that the source path may mean has a line with one of the patterns. -/
def SourceShows (m : SourceMatcher) (source : Text) : Prop :=
  ∃ path, m.Candidate source path ∧ m.Shows path

theorem contentMatches_iff {patterns : SourcePatterns} {content : Bytes} :
    contentMatches patterns content = true ↔
      ∃ line ∈ content.decodeUtf8Lossy.unifyNewlines.fileLines,
        ∃ pattern ∈ patterns.patterns, pattern line = true := by
  simp only [contentMatches, SourcePatterns.search, List.any_eq_true]

/-- Looking into a file never ends with a fault. -/
theorem outcome_fileMatches (m : SourceMatcher) (path : Path) :
    ∃ hit, (m.fileMatches path).outcome = .ok hit ∧ (hit = true ↔ m.Shows path) := by
  rw [fileMatches]
  cases hread : m.tree.read path.toText with
  | error fault => exact ⟨false, rfl, by simp [Shows, hread]⟩
  | ok content =>
    refine ⟨contentMatches m.patterns content, rfl, ?_⟩
    simp [contentMatches_iff, Shows, hread]

theorem outcome_anyMatches (m : SourceMatcher) (paths : List Path) :
    ∃ hit, (m.anyMatches paths).outcome = .ok hit ∧
      (hit = true ↔ ∃ path ∈ paths, m.Shows path) := by
  induction paths with
  | nil => exact ⟨false, rfl, by simp⟩
  | cons path rest ih =>
    rw [anyMatches]
    obtain ⟨hit, hfile, hshows⟩ := outcome_fileMatches m path
    rw [Run.outcome_bind_of_ok hfile, List.exists_mem_cons_iff, ← hshows]
    cases hit with
    | true => exact ⟨true, rfl, by simp⟩
    | false => simpa using ih

/-- A source that is looked up without a fault matches exactly if a candidate does. -/
theorem matchesSource_iff {named : Option Text} {hit : Bool}
    (h : (m.matchesSource named).outcome = .ok hit) :
    hit = true ↔ ∃ source, named = some source ∧ source ≠ [] ∧ m.SourceShows source := by
  rcases named with _ | _ | ⟨c, rest⟩
  · cases h
    simp
  · cases h
    simp
  · obtain ⟨found, hfound, h⟩ := Run.outcome_bind_eq_ok.mp h
    obtain ⟨some, hsome, hshows⟩ := outcome_anyMatches m found
    cases hsome.symm.trans h
    simp [hshows, mem_candidates_iff hfound, SourceShows]

theorem passedOver_iff {hits : List Text} :
    (!(".sol" : Text).isSuffixOf source || hits.elem source) = true ↔
      ¬ (".sol" : Text) <:+ source ∨ source ∈ hits := by
  rw [Bool.or_eq_true, List.elem_eq_mem, decide_eq_true_eq, Bool.not_eq_true',
    ← Bool.not_eq_true, List.isSuffixOf_iff_suffix]

/-- One more source adds itself if it ends in `.sol` and matches. -/
theorem mem_addImportHits_iff {sources hits result : List Text}
    (h : (m.addImportHits hits sources).outcome = .ok result) {t : Text} :
    t ∈ result ↔ t ∈ hits ∨ t ∈ sources ∧ (".sol" : Text) <:+ t ∧ m.SourceShows t := by
  induction sources generalizing hits with
  | nil =>
    cases h
    simp
  | cons source rest ih =>
    rw [addImportHits] at h
    rw [List.mem_cons, or_and_right, ← or_assoc]
    by_cases hskip : (!(".sol" : Text).isSuffixOf source || hits.elem source) = true
    · rw [if_pos hskip] at h
      -- a source passed over has the wrong ending or is listed already
      have hlisted : t = source ∧ (".sol" : Text) <:+ t ∧ m.SourceShows t → t ∈ hits := by
        rintro ⟨rfl, hending, -⟩
        exact (passedOver_iff.mp hskip).resolve_left (not_not_intro hending)
      rw [ih h, or_iff_left_of_imp hlisted]
    · rw [if_neg hskip] at h
      have hending : (".sol" : Text) <:+ source := by
        rw [passedOver_iff, not_or, not_not] at hskip
        exact hskip.1
      have hnonempty : source ≠ [] := by
        rintro rfl
        exact absurd hending (by decide)
      obtain ⟨hit, hmatch, h⟩ := Run.outcome_bind_eq_ok.mp h
      have hshows : hit = true ↔ m.SourceShows source := by
        simp [matchesSource_iff hmatch, hnonempty]
      cases hit with
      | true =>
        rw [ih h, List.mem_append, List.mem_singleton]
        have hsource : t = source ↔ t = source ∧ (".sol" : Text) <:+ t ∧ m.SourceShows t := by
          refine ⟨?_, And.left⟩
          rintro rfl
          exact ⟨rfl, hending, hshows.mp rfl⟩
        rw [← hsource]
      | false =>
        have hsilent : ¬ (t = source ∧ (".sol" : Text) <:+ t ∧ m.SourceShows t) := by
          rintro ⟨rfl, -, hshown⟩
          exact Bool.false_ne_true (hshows.mpr hshown)
        rw [ih h, or_iff_left hsilent]

theorem mem_importHits_iff {sources hits : List Text}
    (h : (m.importHits sources).outcome = .ok hits) {t : Text} :
    t ∈ hits ↔ t ∈ sources ∧ (".sol" : Text) <:+ t ∧ m.SourceShows t := by
  simpa using mem_addImportHits_iff h (t := t)

end DelegateAudit.SourceMatcher

import DelegateAudit.Artifact
import DelegateAudit.Proofs.Outcome

/-!
# DelegateAudit — which files lie below a directory

`FileTree.filesIn` walks a directory and lists the names that lead to its files.
`FileTree.Holds` says the same without a walk: a name leads to a file if it is one, and
names lead to a file if the first is a directory from which the others do. The two agree
(`FileTree.mem_filesIn_iff`), so what a search finds is known by its members (`mem_found_iff`).

`FileTree.Reaches` does the same for directories, and with it `FileTree.Obstacle` says what can stop
a search: a path that is too long to be looked at, or a directory too deep to go down from. A search
fails exactly if there is an obstacle (`exists_search_eq_error_iff`). For the artifacts below a
root, `FileTree.Unlistable` names the obstacles: they are listed exactly if there are none
(`exists_artifacts_iff`, `unlistable_of_artifacts`).
-/

namespace DelegateAudit.FileTree

/-- In a directory with these entries, the names lead to a file. -/
inductive Holds : (entries : List (Text × Node)) → (names : List Text) → Prop
  | file {entries : List (Text × Node)} {name : Text} {content : Bytes}
      (hmem : (name, .file content) ∈ entries) : Holds entries [name]
  | dir {entries inner : List (Text × Node)} {name : Text} {names : List Text}
      (hmem : (name, .dir inner) ∈ entries) (hinner : Holds inner names) :
      Holds entries (name :: names)

/-- In a directory with these entries, the names lead to a directory with those; no names lead
nowhere else. -/
inductive Reaches : (entries : List (Text × Node)) → (names : List Text) →
    (inner : List (Text × Node)) → Prop
  | here {entries : List (Text × Node)} : Reaches entries [] entries
  | into {entries next inner : List (Text × Node)} {name : Text} {names : List Text}
      (hmem : (name, .dir next) ∈ entries) (hnext : Reaches next names inner) :
      Reaches entries (name :: names) inner

theorem Holds.mono {entries more : List (Text × Node)} {names : List Text} (h : Holds entries names)
    (hsub : entries ⊆ more) : Holds more names := by
  cases h with
  | file hmem => exact .file (hsub hmem)
  | dir hmem hinner => exact .dir (hsub hmem) hinner

/-- Names that lead to a file end in the file's own name. -/
theorem Holds.exists_name {entries : List (Text × Node)} {names : List Text}
    (h : Holds entries names) : ∃ dirs name, names = dirs ++ [name] := by
  induction h with
  | @file _ name _ _ => exact ⟨[], name, rfl⟩
  | @dir _ _ outer _ _ _ ih =>
    obtain ⟨dirs, name, rfl⟩ := ih
    exact ⟨outer :: dirs, name, rfl⟩

/-! ## Files -/

-- The walk and its two halves are defined together, so the walk is sound by the same recursion.
mutual

theorem holds_of_mem_filesAt : ∀ (node : Node) {name : Text} {names : List Text},
    names ∈ filesAt name node → Holds [(name, node)] names
  | .file content, name, names, h => by
    rw [filesAt, List.mem_singleton] at h
    subst h
    exact .file (List.mem_singleton_self _)
  | .dir entries, name, names, h => by
    rw [filesAt, List.mem_map] at h
    obtain ⟨inner, hinner, rfl⟩ := h
    exact .dir (List.mem_singleton_self _) (holds_of_mem_filesIn entries hinner)

theorem holds_of_mem_filesIn : ∀ (entries : List (Text × Node)) {names : List Text},
    names ∈ filesIn entries → Holds entries names
  | [], names, h => by simp [filesIn] at h
  | (name, node) :: rest, names, h => by
    rw [filesIn, List.mem_append] at h
    rcases h with h | h
    · exact (holds_of_mem_filesAt node h).mono (by simp)
    · exact (holds_of_mem_filesIn rest h).mono (by simp)

end

theorem mem_filesIn_of_mem {entries : List (Text × Node)} {name : Text} {node : Node}
    {names : List Text} (hmem : (name, node) ∈ entries) (h : names ∈ filesAt name node) :
    names ∈ filesIn entries := by
  induction entries with
  | nil => simp at hmem
  | cons entry rest ih =>
    obtain ⟨n, other⟩ := entry
    rw [filesIn, List.mem_append]
    rcases List.mem_cons.mp hmem with heq | hmem
    · cases heq
      exact .inl h
    · exact .inr (ih hmem)

/-- The walk lists what there is to find. -/
theorem mem_filesIn_iff {entries : List (Text × Node)} {names : List Text} :
    names ∈ filesIn entries ↔ Holds entries names := by
  refine ⟨holds_of_mem_filesIn entries, fun h => ?_⟩
  induction h with
  | file hmem => exact mem_filesIn_of_mem hmem (by simp [filesAt])
  | dir hmem _ ih => exact mem_filesIn_of_mem hmem (by simpa [filesAt] using ih)

theorem mem_found_iff {base path : Path} {entries : List (Text × Node)} {s : Search} :
    path ∈ found base entries s ↔
      ∃ dirs name, Holds entries (dirs ++ [name]) ∧ s.wanted name = true ∧
        path = base.below (dirs ++ [s.written name]) := by
  rw [found, List.mem_mergeSort, List.mem_map]
  constructor
  · rintro ⟨names, hnames, rfl⟩
    rw [List.mem_filter, mem_filesIn_iff] at hnames
    obtain ⟨hholds, hwanted⟩ := hnames
    -- the name that the search asks about is the last one
    obtain ⟨dirs, name, rfl⟩ := hholds.exists_name
    rw [List.getLastD_concat] at hwanted ⊢
    rw [List.dropLast_concat]
    exact ⟨dirs, name, hholds, hwanted, rfl⟩
  · rintro ⟨dirs, name, hholds, hwanted, rfl⟩
    refine ⟨dirs ++ [name], ?_, by rw [List.getLastD_concat, List.dropLast_concat]⟩
    rw [List.mem_filter, mem_filesIn_iff, List.getLastD_concat]
    exact ⟨hholds, hwanted⟩

/-! ## Steps -/

/-- A search takes this step at a directory that it has come to by these names. -/
def StepAt (probe : List Text → List (List Text)) (names : List Text)
    (inner : List (Text × Node)) (step : SearchStep) : Prop :=
  (∃ more ∈ probe (inner.map Prod.fst), step = .look (names ++ more)) ∨ step = .descend names

theorem stepAt_cons_iff {probe : List Text → List (List Text)} {name : Text} {names : List Text}
    {inner : List (Text × Node)} {step : SearchStep} :
    StepAt probe (name :: names) inner step ↔
      ∃ further, StepAt probe names inner further ∧ step = further.under name := by
  constructor
  · rintro (⟨more, hmore, rfl⟩ | rfl)
    · exact ⟨.look (names ++ more), .inl ⟨more, hmore, rfl⟩, rfl⟩
    · exact ⟨.descend names, .inr rfl, rfl⟩
  · rintro ⟨_, ⟨more, hmore, rfl⟩ | rfl, rfl⟩
    · exact .inl ⟨more, hmore, rfl⟩
    · exact .inr rfl

/-- The steps of a search are those at its own directory and those further down. -/
theorem mem_stepsIn {probe : List Text → List (List Text)} {entries : List (Text × Node)}
    {step : SearchStep} :
    step ∈ stepsIn probe entries ↔
      StepAt probe [] entries step ∨ step ∈ stepsBelow probe entries := by
  rw [stepsIn, stepsHere, List.mem_append, List.mem_append, List.mem_map, List.mem_singleton]
  simp only [StepAt, List.nil_append, eq_comm]

theorem mem_stepsAt_dir {probe : List Text → List (List Text)} {name : Text}
    {entries : List (Text × Node)} {step : SearchStep} :
    step ∈ stepsAt probe name (.dir entries) ↔
      ∃ further ∈ stepsIn probe entries, step = further.under name := by
  rw [stepsAt, ← stepsIn, List.mem_map]
  simp only [eq_comm]

-- The steps are listed by a recursion like that of the files.
mutual

theorem reaches_of_mem_stepsAt (probe : List Text → List (List Text)) :
    ∀ (node : Node) {name : Text} {step : SearchStep}, step ∈ stepsAt probe name node →
      ∃ next names inner, node = .dir next ∧ Reaches next names inner ∧
        StepAt probe (name :: names) inner step
  | .file content, name, step, h => by simp [stepsAt] at h
  | .dir entries, name, step, h => by
    obtain ⟨further, hfurther, rfl⟩ := mem_stepsAt_dir.mp h
    rcases mem_stepsIn.mp hfurther with hhere | hbelow
    · exact ⟨entries, [], entries, rfl, .here, stepAt_cons_iff.mpr ⟨further, hhere, rfl⟩⟩
    · obtain ⟨_, _, _, inner, hmem, hreaches, hstep⟩ :=
        reaches_of_mem_stepsBelow probe entries hbelow
      exact ⟨entries, _, inner, rfl, .into hmem hreaches, stepAt_cons_iff.mpr ⟨further, hstep, rfl⟩⟩

theorem reaches_of_mem_stepsBelow (probe : List Text → List (List Text)) :
    ∀ (entries : List (Text × Node)) {step : SearchStep}, step ∈ stepsBelow probe entries →
      ∃ name next names inner, (name, .dir next) ∈ entries ∧ Reaches next names inner ∧
        StepAt probe (name :: names) inner step
  | [], step, h => by simp [stepsBelow] at h
  | (name, node) :: rest, step, h => by
    rw [stepsBelow, List.mem_append] at h
    rcases h with h | h
    · obtain ⟨next, names, inner, rfl, hreaches, hstep⟩ := reaches_of_mem_stepsAt probe node h
      exact ⟨name, next, names, inner, List.mem_cons_self, hreaches, hstep⟩
    · obtain ⟨other, next, names, inner, hmem, hreaches, hstep⟩ :=
        reaches_of_mem_stepsBelow probe rest h
      exact ⟨other, next, names, inner, List.mem_cons_of_mem _ hmem, hreaches, hstep⟩

end

theorem mem_stepsBelow_of_mem {probe : List Text → List (List Text)} {entries : List (Text × Node)}
    {name : Text} {node : Node} {step : SearchStep} (hmem : (name, node) ∈ entries)
    (h : step ∈ stepsAt probe name node) : step ∈ stepsBelow probe entries := by
  induction entries with
  | nil => simp at hmem
  | cons entry rest ih =>
    obtain ⟨n, other⟩ := entry
    rw [stepsBelow, List.mem_append]
    rcases List.mem_cons.mp hmem with heq | hmem
    · cases heq
      exact .inl h
    · exact .inr (ih hmem)

/-- A search takes its steps at every directory that can be reached, and nowhere else. -/
theorem mem_stepsIn_iff {probe : List Text → List (List Text)} {entries : List (Text × Node)}
    {step : SearchStep} :
    step ∈ stepsIn probe entries ↔
      ∃ names inner, Reaches entries names inner ∧ StepAt probe names inner step := by
  constructor
  · intro h
    rcases mem_stepsIn.mp h with hhere | hbelow
    · exact ⟨[], entries, .here, hhere⟩
    · obtain ⟨_, _, _, inner, hmem, hreaches, hstep⟩ :=
        reaches_of_mem_stepsBelow probe entries hbelow
      exact ⟨_, inner, .into hmem hreaches, hstep⟩
  · rintro ⟨names, inner, hreaches, hstep⟩
    induction hreaches generalizing step with
    | here => exact mem_stepsIn.mpr (.inl hstep)
    | into hmem _ ih =>
      obtain ⟨further, hfurther, rfl⟩ := stepAt_cons_iff.mp hstep
      refine mem_stepsIn.mpr (.inr (mem_stepsBelow_of_mem hmem ?_))
      exact mem_stepsAt_dir.mpr ⟨further, ih hfurther, rfl⟩

/-! ## Obstacles -/

/-- What can stop a search below a path. -/
inductive Obstacle (base : Path) (entries : List (Text × Node)) (s : Search) : SearchFault → Prop
  /-- The path of a directory, or of what is looked at in it, is too long. -/
  | path {names more : List Text} {inner : List (Text × Node)} (hdir : Reaches entries names inner)
      (hmore : more = [] ∨ more ∈ s.probe (inner.map Prod.fst))
      (hlong : (base.below (names ++ more)).isOverlong = true) :
      Obstacle base entries s (.system ⟨.nameTooLong, (base.below (names ++ more)).toText⟩)
  /-- A directory lies too deep. -/
  | depth {names : List Text} {inner : List (Text × Node)} (hdir : Reaches entries names inner)
      (hdeep : s.levels < names.length) : Obstacle base entries s .tooDeep

section Search

variable {base : Path} {entries : List (Text × Node)} {s : Search}

theorem pathFault?_eq_some_iff {path : Path} {fault : SearchFault} :
    SearchStep.pathFault? path = some fault ↔
      path.isOverlong = true ∧ fault = .system ⟨.nameTooLong, path.toText⟩ := by
  unfold SearchStep.pathFault?
  split_ifs with hlong
  · simp [hlong, eq_comm]
  · simp [hlong]

/-- A step in which something goes wrong meets an obstacle. -/
theorem obstacle_of_fault? {names : List Text} {inner : List (Text × Node)} {step : SearchStep}
    {fault : SearchFault} (hdir : Reaches entries names inner)
    (hstep : StepAt s.probe names inner step) (h : step.fault? base s.levels = some fault) :
    Obstacle base entries s fault := by
  rcases hstep with ⟨more, hmore, rfl⟩ | rfl
  · obtain ⟨hlong, rfl⟩ := pathFault?_eq_some_iff.mp h
    exact .path hdir (.inr hmore) hlong
  · rw [SearchStep.fault?] at h
    split_ifs at h with hdeep
    · cases h
      exact .depth hdir hdeep
    · obtain ⟨hlong, rfl⟩ := pathFault?_eq_some_iff.mp h
      rw [← List.append_nil names] at hlong ⊢
      exact .path hdir (.inl rfl) hlong

/-- An obstacle is met in some step. The step may find another one first. -/
theorem Obstacle.exists_step {fault : SearchFault} (h : Obstacle base entries s fault) :
    ∃ step ∈ stepsIn s.probe entries, step.fault? base s.levels ≠ none := by
  cases h with
  | @path names more inner hdir hmore hlong =>
    have hfault : SearchStep.pathFault? (base.below (names ++ more)) ≠ none := by
      rw [pathFault?_eq_some_iff.mpr ⟨hlong, rfl⟩]
      exact Option.some_ne_none _
    rcases hmore with rfl | hmore
    · refine ⟨.descend names, mem_stepsIn_iff.mpr ⟨names, inner, hdir, .inr rfl⟩, ?_⟩
      rw [List.append_nil] at hfault
      rw [SearchStep.fault?]
      split_ifs
      · exact Option.some_ne_none _
      · exact hfault
    · exact ⟨.look (names ++ more),
        mem_stepsIn_iff.mpr ⟨names, inner, hdir, .inl ⟨more, hmore, rfl⟩⟩, hfault⟩
  | @depth names inner hdir hdeep =>
    refine ⟨.descend names, mem_stepsIn_iff.mpr ⟨names, inner, hdir, .inr rfl⟩, ?_⟩
    rw [SearchStep.fault?, if_pos hdeep]
    exact Option.some_ne_none _

/-- A search whose steps all go well has no obstacles. -/
theorem not_obstacle_of_steps
    (h : (stepsIn s.probe entries).findSome? (SearchStep.fault? base s.levels) = none)
    (fault : SearchFault) : ¬ Obstacle base entries s fault := by
  intro hfault
  obtain ⟨step, hmem, hstep⟩ := hfault.exists_step
  exact hstep (List.findSome?_eq_none_iff.mp h step hmem)

/-- What a search fails with is an obstacle to it. -/
theorem obstacle_of_search {fault : SearchFault} (h : search base entries s = .error fault) :
    Obstacle base entries s fault := by
  unfold search at h
  cases hfirst : (stepsIn s.probe entries).findSome? (SearchStep.fault? base s.levels) with
  | none =>
    rw [hfirst] at h
    cases h
  | some first =>
    rw [hfirst] at h
    cases h
    obtain ⟨step, hmem, hfault⟩ := List.exists_of_findSome?_eq_some hfirst
    obtain ⟨names, inner, hdir, hstep⟩ := mem_stepsIn_iff.mp hmem
    exact obstacle_of_fault? hdir hstep hfault

/-- A search without obstacles finds the wanted files. -/
theorem search_eq_ok_iff {paths : List Path} :
    search base entries s = .ok paths ↔
      (∀ fault, ¬ Obstacle base entries s fault) ∧ paths = found base entries s := by
  constructor
  · intro h
    unfold search at h
    cases hfirst : (stepsIn s.probe entries).findSome? (SearchStep.fault? base s.levels) with
    | some first =>
      rw [hfirst] at h
      cases h
    | none =>
      rw [hfirst] at h
      cases h
      exact ⟨not_obstacle_of_steps hfirst, rfl⟩
  · rintro ⟨hnone, rfl⟩
    cases hsearch : search base entries s with
    | error fault => exact absurd (obstacle_of_search hsearch) (hnone fault)
    | ok paths =>
      unfold search at hsearch
      split at hsearch
      · cases hsearch
      · exact hsearch.symm

/-- A search fails exactly if there is an obstacle. -/
theorem exists_search_eq_error_iff :
    (∃ fault, search base entries s = .error fault) ↔ ∃ fault, Obstacle base entries s fault := by
  constructor
  · rintro ⟨fault, h⟩
    exact ⟨fault, obstacle_of_search h⟩
  · rintro ⟨fault, h⟩
    cases hsearch : search base entries s with
    | error first => exact ⟨first, rfl⟩
    | ok paths => exact absurd h ((search_eq_ok_iff.mp hsearch).1 fault)

end Search

/-! ## Artifacts -/

section Artifacts

variable {tree : FileTree} {root : Text}

/-- At the written path there is a file below the root, and its name ends in `.json`. -/
def JsonFileBelow (tree : FileTree) (root path : Text) : Prop :=
  ∃ entries dirs name,
    tree.directory? (Path.ofText root) = .ok (some entries) ∧ Holds entries (dirs ++ [name]) ∧
      (".json" : Text) <:+ name ∧ path = ((Path.ofText root).below (dirs ++ [name])).toText

/-- Why there is no list of the artifacts below a root. -/
inductive Unlistable (tree : FileTree) (root : Text) : Fault → Prop
  /-- The root is too long to be looked at. -/
  | root (hlook : tree.look (Path.ofText root) =
        .error ⟨.nameTooLong, (Path.ofText root).toText⟩) :
      Unlistable tree root (.system ⟨.nameTooLong, (Path.ofText root).toText⟩)
  /-- The path of a directory at or below the root, or of an entry in it whose name ends in `.json`,
  is too long. -/
  | path {entries inner : List (Text × Node)} {names more : List Text}
      (hroot : tree.directory? (Path.ofText root) = .ok (some entries))
      (hdir : Reaches entries names inner)
      (hmore : more = [] ∨ ∃ name ∈ inner.map Prod.fst, (".json" : Text) <:+ name ∧ more = [name])
      (hlong : ((Path.ofText root).below (names ++ more)).isOverlong = true) :
      Unlistable tree root
        (.system ⟨.nameTooLong, ((Path.ofText root).below (names ++ more)).toText⟩)
  /-- A directory lies deeper below the root than the machine can follow. -/
  | depth {entries inner : List (Text × Node)} {names : List Text}
      (hroot : tree.directory? (Path.ofText root) = .ok (some entries))
      (hdir : Reaches entries names inner) (hdeep : tree.limits.artifactLevels < names.length) :
      Unlistable tree root (.tooDeep [])

theorem mem_probe_artifactSearch {names : List Text} {more : List Text} :
    more ∈ tree.artifactSearch.probe names ↔
      more = [] ∨ ∃ name ∈ names, (".json" : Text) <:+ name ∧ more = [name] := by
  rw [artifactSearch, Search.fitting, List.mem_cons, List.mem_map]
  simp only [List.mem_filter, List.isSuffixOf_iff_suffix, and_assoc, eq_comm (b := more)]

/-- Below a directory, the obstacles to the search are the reasons for there being no list. -/
theorem unlistable_of_obstacle {entries : List (Text × Node)} {fault : SearchFault}
    (hroot : tree.directory? (Path.ofText root) = .ok (some entries))
    (h : Obstacle (Path.ofText root) entries tree.artifactSearch fault) :
    tree.Unlistable root (.ofSearch fault) := by
  cases h with
  | path hdir hmore hlong =>
    refine .path hroot hdir ?_ hlong
    rcases hmore with hmore | hmore
    · exact .inl hmore
    · exact mem_probe_artifactSearch.mp hmore
  | depth hdir hdeep => exact .depth hroot hdir hdeep

theorem outcome_artifacts (tree : FileTree) (root : Text) :
    (tree.artifacts root).outcome =
      match tree.directory? (Path.ofText root) with
      | .error fault => .error (.system fault)
      | .ok none => .ok []
      | .ok (some entries) =>
        (search (Path.ofText root) entries tree.artifactSearch).mapError .ofSearch := by
  rw [artifacts]
  rcases tree.directory? (Path.ofText root) with fault | _ | entries
  · rfl
  · rfl
  · rfl

theorem outcome_artifacts_of_directory {entries : List (Text × Node)}
    (hroot : tree.directory? (Path.ofText root) = .ok (some entries)) :
    (tree.artifacts root).outcome =
      (search (Path.ofText root) entries tree.artifactSearch).mapError .ofSearch := by
  rw [outcome_artifacts, hroot]

/-- A fault of the file system is about the path that was written. -/
theorem path_of_locate {path : Text} {cause : SystemFault}
    (h : tree.locate path = .error (.system cause)) : cause.path = path := by
  unfold locate at h
  split at h
  · cases h
  · split_ifs at h
    · cases h
    · cases hwalk : tree.walk path with
      | ok place =>
        rw [hwalk] at h
        cases h
      | error error =>
        rw [hwalk] at h
        cases h
        rfl

/-- Only a name that is too long keeps one from looking at a path. -/
theorem look_eq_error {path : Path} {cause : SystemFault} (h : tree.look path = .error cause) :
    cause = ⟨.nameTooLong, path.toText⟩ := by
  unfold look at h
  split at h
  · cases h
  · next fault hlocate =>
    split at h
    · next hlong =>
      cases h
      rw [← hlong, ← path_of_locate hlocate]
    · cases h
  · cases h

theorem directory?_eq_error_iff {path : Path} {cause : SystemFault} :
    tree.directory? path = .error cause ↔ tree.look path = .error cause := by
  rw [directory?]
  cases tree.look path <;> simp [Except.map]

/-- What the listing of the artifacts fails with is a reason for there being no list. -/
theorem unlistable_of_artifacts {fault : Fault}
    (h : (tree.artifacts root).outcome = .error fault) : tree.Unlistable root fault := by
  rcases hroot : tree.directory? (Path.ofText root) with cause | _ | entries
  · rw [outcome_artifacts, hroot] at h
    cases h
    have hlook := directory?_eq_error_iff.mp hroot
    obtain rfl := look_eq_error hlook
    exact .root hlook
  · rw [outcome_artifacts, hroot] at h
    cases h
  · rw [outcome_artifacts_of_directory hroot] at h
    cases hsearch : search (Path.ofText root) entries tree.artifactSearch with
    | ok paths =>
      rw [hsearch] at h
      cases h
    | error cause =>
      rw [hsearch] at h
      cases h
      exact unlistable_of_obstacle hroot (obstacle_of_search hsearch)

/-- The artifacts below a root are listed exactly if there is no reason against it. -/
theorem exists_artifacts_iff :
    (∃ paths, (tree.artifacts root).outcome = .ok paths) ↔
      ∀ fault, ¬ tree.Unlistable root fault := by
  constructor
  · rintro ⟨paths, h⟩ fault hfault
    -- a directory was searched without an obstacle
    have hclear : ∀ {entries : List (Text × Node)},
        tree.directory? (Path.ofText root) = .ok (some entries) →
        ∀ cause, ¬ Obstacle (Path.ofText root) entries tree.artifactSearch cause := by
      intro entries hroot
      rw [outcome_artifacts_of_directory hroot] at h
      cases hsearch : search (Path.ofText root) entries tree.artifactSearch with
      | ok listed => exact (search_eq_ok_iff.mp hsearch).1
      | error cause =>
        rw [hsearch] at h
        cases h
    cases hfault with
    | root hlook =>
      rw [outcome_artifacts, directory?_eq_error_iff.mpr hlook] at h
      cases h
    | path hroot hdir hmore hlong =>
      refine hclear hroot _ (.path hdir (hmore.imp_right fun hjson => ?_) hlong)
      exact mem_probe_artifactSearch.mpr (.inr hjson)
    | depth hroot hdir hdeep => exact hclear hroot _ (.depth hdir hdeep)
  · intro hnone
    cases h : (tree.artifacts root).outcome with
    | ok paths => exact ⟨paths, rfl⟩
    | error fault => exact absurd (unlistable_of_artifacts h) (hnone fault)

/-- Below a directory there is a list, if all steps of the search go well. -/
theorem not_unlistable_of_steps {entries : List (Text × Node)}
    (hroot : tree.directory? (Path.ofText root) = .ok (some entries))
    (h : (stepsIn tree.artifactSearch.probe entries).findSome?
      (SearchStep.fault? (Path.ofText root) tree.artifactSearch.levels) = none) :
    ∀ fault, ¬ tree.Unlistable root fault := by
  refine exists_artifacts_iff.mp ⟨found (Path.ofText root) entries tree.artifactSearch, ?_⟩
  rw [outcome_artifacts_of_directory hroot, search, h]
  rfl

/-- What is listed below a directory are the files that the search wants. -/
theorem artifacts_eq_found {entries : List (Text × Node)} {paths : List Path}
    (hroot : tree.directory? (Path.ofText root) = .ok (some entries))
    (h : (tree.artifacts root).outcome = .ok paths) :
    paths = found (Path.ofText root) entries tree.artifactSearch := by
  rw [outcome_artifacts_of_directory hroot] at h
  cases hsearch : search (Path.ofText root) entries tree.artifactSearch with
  | error cause =>
    rw [hsearch] at h
    cases h
  | ok listed =>
    rw [hsearch] at h
    cases h
    exact (search_eq_ok_iff.mp hsearch).2

theorem mem_found_artifactSearch_iff {base path : Path} {entries : List (Text × Node)} :
    path ∈ found base entries tree.artifactSearch ↔
      ∃ dirs name, Holds entries (dirs ++ [name]) ∧ (".json" : Text) <:+ name ∧
        path = base.below (dirs ++ [name]) := by
  rw [mem_found_iff]
  simp only [artifactSearch, Search.fitting, List.isSuffixOf_iff_suffix]

/-- Artifacts that the walk meets in their order stay in this order. -/
theorem outcome_artifacts_of_sorted {entries : List (Text × Node)} {paths : List Path}
    (hroot : tree.directory? (Path.ofText root) = .ok (some entries))
    (hclear : (stepsIn tree.artifactSearch.probe entries).findSome?
      (SearchStep.fault? (Path.ofText root) tree.artifactSearch.levels) = none)
    (hwalk : ((filesIn entries).filter fun names =>
      (".json" : Text).isSuffixOf (names.getLastD [])).map (fun names =>
        (Path.ofText root).below (names.dropLast ++ [names.getLastD []])) = paths)
    (hsorted : paths.Pairwise fun p q => Path.le p q = true) :
    (tree.artifacts root).outcome = .ok paths := by
  have hfound : found (Path.ofText root) entries tree.artifactSearch = paths := by
    rw [found]
    simp only [artifactSearch, Search.fitting]
    rw [hwalk, List.mergeSort_of_pairwise hsorted]
  rw [outcome_artifacts_of_directory hroot, search, hclear, hfound]
  rfl

theorem mem_artifacts_iff {path : Text} :
    (∃ paths, (tree.artifacts root).outcome = .ok paths ∧ ∃ p ∈ paths, p.toText = path) ↔
      (∀ fault, ¬ tree.Unlistable root fault) ∧ tree.JsonFileBelow root path := by
  rw [← exists_artifacts_iff]
  constructor
  · rintro ⟨paths, hpaths, p, hp, rfl⟩
    refine ⟨⟨paths, hpaths⟩, ?_⟩
    rcases hroot : tree.directory? (Path.ofText root) with fault | _ | entries
    · rw [outcome_artifacts, hroot] at hpaths
      cases hpaths
    · rw [outcome_artifacts, hroot] at hpaths
      cases hpaths
      cases hp
    · rw [artifacts_eq_found hroot hpaths] at hp
      obtain ⟨dirs, name, hholds, hjson, rfl⟩ := mem_found_artifactSearch_iff.mp hp
      exact ⟨entries, dirs, name, hroot, hholds, hjson, rfl⟩
  · rintro ⟨⟨paths, hpaths⟩, entries, dirs, name, hroot, hholds, hjson, rfl⟩
    refine ⟨paths, hpaths, _, ?_, rfl⟩
    rw [artifacts_eq_found hroot hpaths]
    exact mem_found_artifactSearch_iff.mpr ⟨dirs, name, hholds, hjson, rfl⟩

end Artifacts

end DelegateAudit.FileTree

import DelegateAudit.Proofs.Spots

/-!
# DelegateAudit — trees as file systems have them

In a proper tree no directory has an entry twice, and every name is one that a written path can
go through. Then a path written name by name is read name by name, and files that are found
apart lie apart.

Main results:

* `Path.spot?_below` — names below a path lead further down from its spot.
* `FileTree.write_replaces` — writing to the spot of a file changes this file only.
* `FileTree.Proper.nodup_found` — a search lists every file once.
* `FileTree.artifacts_apart` — artifacts are listed once and have different spots.
-/

namespace DelegateAudit

-- ---------------------------------------------------------------------------
-- Names, and paths made of them
-- ---------------------------------------------------------------------------

/-- A name that a file can have: not empty, without a slash, neither of the names made of dots
that stand for a directory, and written the way it is stored. -/
def Text.IsFileName (name : Text) : Prop :=
  name ≠ "" ∧ name ≠ "." ∧ name ≠ ".." ∧ .scalar '/' ∉ name ∧ name.stored = name

instance (name : Text) : Decidable name.IsFileName :=
  inferInstanceAs (Decidable (_ ∧ _ ∧ _ ∧ _ ∧ _))

theorem Text.splitOn_eq (sep : CodePoint) (t : Text) : Text.splitOn sep t = List.splitOn sep t := by
  induction t with
  | nil => rfl
  | cons c rest ih =>
    have hcons : List.splitOn sep (c :: rest) = _ :=
      List.splitOnP_cons_eq_if_modifyHead c rest
    rw [Text.splitOn, ih, hcons]
    cases hrest : List.splitOn sep rest with
    | nil => exact absurd hrest (List.splitOnP_ne_nil _ rest)
    | cons piece pieces =>
      rw [List.splitOn] at hrest
      by_cases hsep : c = sep
      · simp [hrest, hsep]
      · simp [hrest, hsep]

/-- A path written name by name is read name by name. -/
theorem Text.splitOn_join {names : List Text} (hne : names ≠ [])
    (hslash : ∀ name ∈ names, .scalar '/' ∉ name) :
    (Text.join "/" names).splitOn '/' = names := by
  rw [Text.splitOn_eq]
  exact List.splitOn_intercalate (.scalar '/') hslash hne

/-- What a text is split at is in none of the pieces. -/
theorem Text.not_mem_of_mem_splitOn {sep : CodePoint} {t piece : Text}
    (h : piece ∈ t.splitOn sep) : sep ∉ piece := by
  induction t generalizing piece with
  | nil =>
    rw [Text.splitOn, List.mem_singleton] at h
    simp [h]
  | cons c rest ih =>
    rw [Text.splitOn] at h
    cases hrest : Text.splitOn sep rest with
    | nil =>
      rw [Text.splitOn_eq] at hrest
      exact absurd hrest (List.splitOnP_ne_nil _ rest)
    | cons first pieces =>
      rw [hrest] at h ih
      simp only at h
      split_ifs at h with hsep
      · rcases List.mem_cons.mp h with rfl | h
        · simp
        · exact ih h
      · rcases List.mem_cons.mp h with rfl | h
        · rw [List.mem_cons, not_or]
          exact ⟨Ne.symm hsep, ih List.mem_cons_self⟩
        · exact ih (List.mem_cons_of_mem _ h)

theorem Text.head?_join (name : Text) (hname : name ≠ []) (rest : List Text) :
    (Text.join "/" (name :: rest)).head? = name.head? := by
  obtain ⟨c, more, rfl⟩ := List.exists_cons_of_ne_nil hname
  cases rest with
  | nil => simp [Text.join, List.intercalate]
  | cons second rest => simp [Text.join, List.intercalate]

theorem Text.foldl_followed_none (names : List Text) : names.foldl Text.followed none = none := by
  induction names with
  | nil => rfl
  | cons name rest ih =>
    have hnone : Text.followed none name = none := by
      unfold Text.followed
      split_ifs <;> rfl
    rw [List.foldl_cons, hnone, ih]

/-- File names lead further down. -/
theorem Text.foldl_followed_names {names : List Text} (hplain : ∀ name ∈ names, name.IsFileName)
    (trail : List Text) :
    names.foldl Text.followed (some trail) = some (names.reverse ++ trail) := by
  induction names generalizing trail with
  | nil => rfl
  | cons name rest ih =>
    obtain ⟨⟨hempty, hdot, hdots, -, hstored⟩, hrest⟩ := List.forall_mem_cons.mp hplain
    have hname : Text.followed (some trail) name = some (name :: trail) := by
      simp [Text.followed, hempty, hdot, hdots, hstored]
    rw [List.foldl_cons, hname, ih hrest, List.reverse_cons, List.append_assoc]
    rfl

namespace Path

/-- The names of a path that was written down are not empty and hold no slash. -/
theorem names_ofText {t name : Text} (h : name ∈ (ofText t).names) :
    name ≠ [] ∧ .scalar '/' ∉ name := by
  simp only [ofText, List.mem_filter, Bool.and_eq_true, decide_eq_true_eq] at h
  exact ⟨h.2.1, Text.not_mem_of_mem_splitOn h.1⟩

/-- Where a path leads is found by following its names one by one. -/
theorem spot?_toText {p : Path} (hroot : p.root = [])
    (hnames : ∀ name ∈ p.names, name ≠ [] ∧ .scalar '/' ∉ name) :
    p.toText.spot? = (p.names.foldl Text.followed (some [])).map List.reverse := by
  obtain ⟨root, names⟩ := p
  subst hroot
  cases names with
  | nil => decide
  | cons name rest =>
    have htext : toText ⟨[], name :: rest⟩ = Text.join "/" (name :: rest) := rfl
    obtain ⟨hname, hslash⟩ := hnames name List.mem_cons_self
    have hhead : (Text.join "/" (name :: rest)).head? ≠ some (.scalar '/') := by
      rw [Text.head?_join name hname]
      intro h
      exact hslash (List.mem_of_mem_head? h)
    rw [htext, Text.spot?, if_neg hhead,
      Text.splitOn_join (List.cons_ne_nil _ _) fun n hn => (hnames n hn).2]

theorem rootOf_cases (t : Text) : rootOf t = [] ∨ (rootOf t).head? = some (.scalar '/') := by
  unfold rootOf
  split
  · exact .inr rfl
  · exact .inr rfl
  · exact .inr rfl
  · exact .inl rfl

/-- Only a path that starts at the working directory has a spot. -/
theorem root_of_spot? {t : Text} {spot : List Text} (h : (ofText t).toText.spot? = some spot) :
    (ofText t).root = [] := by
  refine (rootOf_cases t).resolve_right fun hslash => ?_
  have hne : (ofText t).root ≠ [] := by
    intro hnil
    rw [show rootOf t = [] from hnil] at hslash
    cases hslash
  have hhead : (ofText t).toText.head? = some (.scalar '/') := by
    rw [toText, if_neg (by simp [hne]), List.head?_append, show (ofText t).root = rootOf t from rfl,
      hslash]
    rfl
  rw [Text.spot?, if_pos hhead, Text.foldl_followed_none] at h
  cases h

/-- Plain file names below a path lead on from where the path leads. -/
theorem spot?_below {t : Text} {base names : List Text}
    (hbase : (ofText t).toText.spot? = some base) (hplain : ∀ name ∈ names, name.IsFileName) :
    ((ofText t).below names).toText.spot? = some (base ++ names) := by
  have hroot := root_of_spot? hbase
  have hroot' : ((ofText t).below names).root = [] := hroot
  have hnames : ∀ name ∈ ((ofText t).below names).names, name ≠ [] ∧ .scalar '/' ∉ name := by
    intro name hname
    rcases List.mem_append.mp hname with hname | hname
    · exact names_ofText hname
    · exact ⟨(hplain name hname).1, (hplain name hname).2.2.2.1⟩
  rw [spot?_toText hroot fun _ => names_ofText] at hbase
  obtain ⟨trail, htrail, rfl⟩ := Option.map_eq_some_iff.mp hbase
  rw [spot?_toText hroot' hnames, below, List.foldl_append, htrail,
    Text.foldl_followed_names hplain]
  simp

end Path

namespace FileTree

-- ---------------------------------------------------------------------------
-- Proper trees
-- ---------------------------------------------------------------------------

/-- Entries of a directory as a file system has them: all names are file names, none occurs twice,
and the same holds in every directory below. -/
inductive Proper : (entries : List (Text × Node)) → Prop
  | nil : Proper []
  | file {name : Text} {content : Bytes} {rest : List (Text × Node)} (hname : name.IsFileName)
      (hnew : name ∉ rest.map Prod.fst) (hrest : Proper rest) :
      Proper ((name, .file content) :: rest)
  | dir {name : Text} {inner rest : List (Text × Node)} (hname : name.IsFileName)
      (hnew : name ∉ rest.map Prod.fst) (hinner : Proper inner) (hrest : Proper rest) :
      Proper ((name, .dir inner) :: rest)

/-- An entry of a proper directory is found under its name, which is a file name, and what lies
below it is proper again. -/
theorem Proper.of_mem {entries : List (Text × Node)} (h : Proper entries) {name : Text}
    {node : Node} (hmem : (name, node) ∈ entries) :
    name.IsFileName ∧ entries.lookup name = some node ∧
      ∀ inner, node = .dir inner → Proper inner := by
  induction h with
  | nil => cases hmem
  | @file first content rest hname hnew hrest ih =>
    rcases List.mem_cons.mp hmem with heq | hmem
    · cases heq
      exact ⟨hname, by simp, fun inner h => by cases h⟩
    · have hne : name ≠ first := fun heq => hnew (heq ▸ List.mem_map_of_mem hmem)
      rw [List.lookup_cons, beq_eq_false_iff_ne.mpr hne]
      exact ih hmem
  | @dir first inner rest hname hnew hinner hrest _ ih =>
    rcases List.mem_cons.mp hmem with heq | hmem
    · cases heq
      refine ⟨hname, by simp, ?_⟩
      rintro _ ⟨⟩
      exact hinner
    · have hne : name ≠ first := fun heq => hnew (heq ▸ List.mem_map_of_mem hmem)
      rw [List.lookup_cons, beq_eq_false_iff_ne.mpr hne]
      exact ih hmem

theorem Proper.of_lookup {entries : List (Text × Node)} (h : Proper entries) {name : Text}
    {node : Node} (hname : entries.lookup name = some node) :
    name.IsFileName ∧ ∀ inner, node = .dir inner → Proper inner := by
  obtain ⟨before, after, rfl, -⟩ := List.lookup_eq_some_iff.mp hname
  have hmem : (name, node) ∈ before ++ (name, node) :: after := by simp
  obtain ⟨hplain, -, hinner⟩ := h.of_mem hmem
  exact ⟨hplain, hinner⟩

/-- Below a proper directory all names are file names, and all directories are proper. -/
theorem Proper.of_at? {spot : List Text} {entries : List (Text × Node)} (h : Proper entries)
    {node : Node} (hat : (Node.dir entries).at? spot = some node) :
    (∀ name ∈ spot, name.IsFileName) ∧ ∀ inner, node = .dir inner → Proper inner := by
  induction spot generalizing entries with
  | nil =>
    cases hat
    refine ⟨by simp, ?_⟩
    rintro _ ⟨⟩
    exact h
  | cons name rest ih =>
    rw [Node.at?] at hat
    obtain ⟨next, hname, hnext⟩ := Option.bind_eq_some_iff.mp hat
    obtain ⟨hplain, hinner⟩ := h.of_lookup hname
    rw [List.forall_mem_cons]
    cases next with
    | file content =>
      cases rest with
      | nil =>
        cases hnext
        exact ⟨⟨hplain, by simp⟩, fun inner h => by cases h⟩
      | cons second rest => cases hnext
    | dir inner =>
      obtain ⟨hrest, hnode⟩ := ih (hinner inner rfl) hnext
      exact ⟨⟨hplain, hrest⟩, hnode⟩

/-- Names that lead to a file are followed to a file. -/
theorem Holds.exists_at? {entries : List (Text × Node)} {names : List Text}
    (h : Holds entries names) (hproper : Proper entries) :
    ∃ content, (Node.dir entries).at? names = some (.file content) := by
  induction h with
  | @file entries name content hmem =>
    have hname := (hproper.of_mem hmem).2.1
    exact ⟨content, by simp [Node.at?, hname]⟩
  | @dir entries inner name names hmem _ ih =>
    obtain ⟨-, hname, hinner⟩ := hproper.of_mem hmem
    obtain ⟨content, hcontent⟩ := ih (hinner inner rfl)
    exact ⟨content, by rw [Node.at?, hname, Option.bind_some, hcontent]⟩

theorem Holds.exists_first {entries : List (Text × Node)} {names : List Text}
    (h : Holds entries names) :
    ∃ first more, names = first :: more ∧ first ∈ entries.map Prod.fst := by
  cases h with
  | file hmem => exact ⟨_, _, rfl, List.mem_map_of_mem hmem⟩
  | dir hmem _ => exact ⟨_, _, rfl, List.mem_map_of_mem hmem⟩

/-- In a proper directory the walk meets every file once. -/
theorem Proper.nodup_filesIn {entries : List (Text × Node)} (h : Proper entries) :
    (filesIn entries).Nodup := by
  -- what comes later starts with another name
  have hapart : ∀ {name : Text} {rest : List (Text × Node)} (more : List Text),
      name ∉ rest.map Prod.fst → name :: more ∉ filesIn rest := by
    intro name rest more hnew hmem
    obtain ⟨first, _, heq, hfirst⟩ := (mem_filesIn_iff.mp hmem).exists_first
    cases heq
    exact hnew hfirst
  induction h with
  | nil => simp [filesIn]
  | file hname hnew hrest ih =>
    rw [filesIn, filesAt, List.singleton_append, List.nodup_cons]
    exact ⟨hapart [] hnew, ih⟩
  | dir hname hnew hinner hrest ihinner ihrest =>
    rw [filesIn, filesAt, List.nodup_append]
    refine ⟨ihinner.map List.cons_injective, ihrest, ?_⟩
    rintro _ hmap names hnames rfl
    obtain ⟨more, -, rfl⟩ := List.mem_map.mp hmap
    exact hapart more hnew hnames

-- ---------------------------------------------------------------------------
-- Artifacts and changes
-- ---------------------------------------------------------------------------

variable {tree : FileTree}

/-- **Writing to a file replaces its content.** -/
theorem write_replaces (hproper : Proper tree.entries) {spot : List Text} {old : Bytes}
    (hspot : tree.at? spot = some (.file old)) (content : Bytes) :
    ∃ changed, tree.write (Text.join "/" spot) (.file content) = .ok changed ∧
      Replaced spot content tree changed := by
  obtain ⟨entries, hput, hreplaced⟩ := putAt_replaces hspot content tree.limits
  have hplain := (hproper.of_at? hspot).1
  have hne : spot ≠ [] := by
    rintro rfl
    cases hspot
  have hnames : (Path.ofText (Text.join "/" spot)).names = spot := by
    simp only [Path.ofText, Text.splitOn_join hne fun name hname => (hplain name hname).2.2.2.1]
    rw [List.filter_eq_self]
    intro name hname
    obtain ⟨hempty, hdot, -⟩ := hplain name hname
    simpa using ⟨hempty, hdot⟩
  have hstored : spot.map Text.stored = spot := by
    rw [List.map_congr_left fun name hname => (hplain name hname).2.2.2.2, List.map_id']
  exact ⟨{ tree with entries }, by rw [write, hnames, hstored, hput], hreplaced⟩

/-- A directory that is found is empty or stands where its path leads. -/
theorem directory?_at {path : Path} {entries : List (Text × Node)}
    (h : tree.directory? path = .ok (some entries)) :
    entries = [] ∨ ∃ spot, path.toText.spot? = some spot ∧ tree.at? spot = some (.dir entries) := by
  unfold directory? look at h
  cases hlocate : tree.locate path.toText with
  | error fault =>
    rw [hlocate] at h
    rcases fault with fault | _ | _
    · simp only at h
      split_ifs at h <;> cases h
    · cases h
    · cases h
  | ok place =>
    rw [hlocate] at h
    have hat := walk_at (walk_of_locate hlocate)
    cases place with
    | file content => cases h
    | outside =>
      cases h
      exact .inl rfl
    | dir inner around =>
      cases h
      exact .inr (Option.bind_eq_some_iff.mp hat)

/-- Every directory of a proper tree is proper. -/
theorem Proper.of_directory? (h : Proper tree.entries) {path : Path} {entries : List (Text × Node)}
    (hdir : tree.directory? path = .ok (some entries)) : Proper entries := by
  rcases directory?_at hdir with rfl | ⟨spot, -, hat⟩
  · exact .nil
  · exact (h.of_at? hat).2 entries rfl

/-- A search lists every file once, if it writes different names for different files. -/
theorem Proper.nodup_found {entries : List (Text × Node)} (h : Proper entries) (base : Path)
    {s : Search} (hwritten : ∀ name name', s.wanted name = true → s.wanted name' = true →
      s.written name = s.written name' → name = name') : (found base entries s).Nodup := by
  rw [found, List.nodup_mergeSort]
  refine (h.nodup_filesIn.filter _).map_on ?_
  intro names hnames names' hnames' heq
  obtain ⟨hmem, hwanted⟩ := List.mem_filter.mp hnames
  obtain ⟨hmem', hwanted'⟩ := List.mem_filter.mp hnames'
  -- both lists of names end in the file's own
  obtain ⟨dirs, name, rfl⟩ := (mem_filesIn_iff.mp hmem).exists_name
  obtain ⟨dirs', name', rfl⟩ := (mem_filesIn_iff.mp hmem').exists_name
  simp only [List.getLastD_concat, List.dropLast_concat] at heq hwanted hwanted'
  have hpaths := List.append_cancel_left (congrArg Path.names heq)
  obtain ⟨rfl, hname⟩ : dirs = dirs' ∧ s.written name = s.written name' := by simpa using hpaths
  rw [hwritten name name' hwanted hwanted' hname]

/-- **Artifacts lie apart.** Each is listed once, is a file at a spot, and no two are at the same
spot. -/
theorem artifacts_apart (hproper : Proper tree.entries) {root : Text} {paths : List Path}
    (h : (tree.artifacts root).outcome = .ok paths) :
    paths.Nodup ∧
      (∀ file ∈ paths, ∃ spot content, file.toText.spot? = some spot ∧
        tree.at? spot = some (.file content)) ∧
      ∀ file ∈ paths, ∀ other ∈ paths, other.toText.spot? = file.toText.spot? → other = file := by
  rcases hroot : tree.directory? (Path.ofText root) with fault | _ | entries
  · rw [outcome_artifacts, hroot] at h
    cases h
  · rw [outcome_artifacts, hroot] at h
    cases h
    simp
  obtain rfl := artifacts_eq_found hroot h
  have hentries : Proper entries := hproper.of_directory? hroot
  rcases directory?_at hroot with rfl | ⟨base, hbase, hdir⟩
  · -- above the working directory nothing is listed
    simp [found, filesIn]
  have hspots : ∀ file ∈ found (Path.ofText root) entries tree.artifactSearch,
      ∃ names content, file = (Path.ofText root).below names ∧
        file.toText.spot? = some (base ++ names) ∧
        tree.at? (base ++ names) = some (.file content) := by
    intro file hfile
    obtain ⟨dirs, name, hholds, -, rfl⟩ := mem_found_artifactSearch_iff.mp hfile
    obtain ⟨content, hcontent⟩ := hholds.exists_at? hentries
    have hplain := (hentries.of_at? hcontent).1
    refine ⟨dirs ++ [name], content, rfl, Path.spot?_below hbase hplain, ?_⟩
    rw [FileTree.at?, Node.at?_append, ← FileTree.at?, hdir, Option.bind_some, hcontent]
  refine ⟨hentries.nodup_found _ fun name name' _ _ heq => heq, ?_, ?_⟩
  · intro file hfile
    obtain ⟨names, content, -, hspot, hat⟩ := hspots file hfile
    exact ⟨base ++ names, content, hspot, hat⟩
  · intro file hfile other hother heq
    obtain ⟨names, -, rfl, hspot, -⟩ := hspots file hfile
    obtain ⟨names', -, rfl, hspot', -⟩ := hspots other hother
    rw [hspot, hspot', Option.some.injEq, List.append_cancel_left_eq] at heq
    rw [heq]

end FileTree
end DelegateAudit

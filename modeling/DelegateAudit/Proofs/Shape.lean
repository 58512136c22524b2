import DelegateAudit.Scan
import DelegateAudit.Proofs.FilesBelow

/-!
# DelegateAudit — what is known without opening a file

The shape of a file tree is the tree with all its files emptied. Walking, looking, listing and
searching tell the same of a tree and of its shape, since none of them opens a file; only
`FileTree.read` does. So two trees of the same shape have the same artifacts, and the same files
are candidates for a source in both.

Main results:

* `FileTree.walk_shape` — a walk leads to the same place, from which the other facts follow.
* `FileTree.artifacts_congr` — the artifacts below a root.
* `SourceMatcher.candidates_congr` — the candidates for a source.
-/

namespace DelegateAudit

-- The recursion is the one of the walk that lists the files below a directory.
mutual

/-- A node with all its files emptied. -/
def Node.shape : Node → Node
  | .file _ => .file []
  | .dir entries => .dir (Node.shapes entries)

/-- Entries of a directory with all their files emptied. -/
def Node.shapes : List (Text × Node) → List (Text × Node)
  | [] => []
  | (name, node) :: rest => (name, node.shape) :: Node.shapes rest

end

/-- A place with all files around it emptied. -/
def Place.shape : Place → Place
  | .dir entries around => .dir (Node.shapes entries) (around.map Node.shapes)
  | .file _ => .file []
  | .outside => .outside

/-- A tree with all its files emptied. -/
def FileTree.shape (tree : FileTree) : FileTree :=
  { tree with entries := Node.shapes tree.entries }

/-- Emptying files changes no name. -/
theorem Node.names_shapes (entries : List (Text × Node)) :
    (Node.shapes entries).map Prod.fst = entries.map Prod.fst := by
  induction entries with
  | nil => rfl
  | cons entry rest ih => rw [Node.shapes, List.map_cons, List.map_cons, ih]

/-- Under each name stands the shape of what stood there. -/
theorem Node.lookup_shapes (entries : List (Text × Node)) (name : Text) :
    (Node.shapes entries).lookup name = (entries.lookup name).map Node.shape := by
  induction entries with
  | nil => rfl
  | cons entry rest ih =>
    obtain ⟨other, node⟩ := entry
    rw [Node.shapes, List.lookup_cons, List.lookup_cons]
    cases name == other with
    | true => rfl
    | false => exact ih

-- ---------------------------------------------------------------------------
-- Walking and looking
-- ---------------------------------------------------------------------------

/-- One step of a walk leads from shapes to shapes. -/
theorem Place.enter_shape (place : Place) (name : Text) :
    place.shape.enter name = (place.enter name).map Place.shape := by
  unfold Place.enter
  by_cases hstay : (name = "" || name = ".") = true
  · rw [if_pos hstay, if_pos hstay]
    cases place with
    | dir entries around => rfl
    | file content => rfl
    | outside => rfl
  rw [if_neg hstay, if_neg hstay]
  by_cases hup : name = ".."
  · rw [if_pos hup, if_pos hup]
    cases place with
    | dir entries around => cases around <;> rfl
    | file content => rfl
    | outside => rfl
  rw [if_neg hup, if_neg hup]
  cases place with
  | file content => rfl
  | outside => rfl
  | dir entries around =>
    by_cases hlong : 255 < name.fileSize
    · simp only [Place.shape, if_pos hlong]
      rfl
    · simp only [Place.shape, if_neg hlong, Node.lookup_shapes]
      rcases entries.lookup name.stored with _ | ⟨_ | inner⟩
      · rfl
      · rfl
      · rfl

/-- What one step does, all steps do. -/
theorem Place.foldlM_enter_shape (names : List Text) (place : Place) :
    names.foldlM Place.enter place.shape = (names.foldlM Place.enter place).map Place.shape := by
  induction names generalizing place with
  | nil => rfl
  | cons name rest ih =>
    rw [List.foldlM_cons, List.foldlM_cons, Place.enter_shape]
    cases place.enter name with
    | error error => rfl
    | ok next => exact ih next

namespace FileTree

/-- A walk leads to the same place in the shape of a tree. -/
theorem walk_shape (tree : FileTree) (path : Text) :
    tree.shape.walk path = (tree.walk path).map Place.shape := by
  unfold walk
  by_cases hempty : path.isEmpty = true
  · rw [if_pos hempty, if_pos hempty]
    rfl
  rw [if_neg hempty, if_neg hempty]
  by_cases hlong : 4096 ≤ path.fileSize
  · rw [if_pos hlong, if_pos hlong]
    rfl
  rw [if_neg hlong, if_neg hlong]
  by_cases habsolute : path.head? = some (.scalar '/')
  · simp only [if_pos habsolute]
    exact Place.foldlM_enter_shape _ .outside
  · simp only [if_neg habsolute]
    exact Place.foldlM_enter_shape _ (.dir tree.entries [])

/-- A path leads to the same place, or fails for the same reason. -/
theorem locate_shape (tree : FileTree) (path : Text) :
    tree.shape.locate path = (tree.locate path).map Place.shape := by
  unfold locate
  cases unencodable? path with
  | some run => rfl
  | none =>
    by_cases hnul : path.elem (.scalar '\x00') = true
    · simp only [if_pos hnul]
      rfl
    · simp only [if_neg hnul, walk_shape]
      cases tree.walk path with
      | error error => rfl
      | ok place => rfl

/-- Looking at a path shows the shape of what is there. -/
theorem look_shape (tree : FileTree) (path : Path) :
    tree.shape.look path = (tree.look path).map (Option.map Place.shape) := by
  unfold look
  rw [locate_shape]
  rcases tree.locate path.toText with (fault | _ | _) | place
  · simp only [Except.map]
    split_ifs
    · rfl
    · rfl
  · rfl
  · rfl
  · rfl

/-- A file stays a file. -/
theorem isFile_shape (tree : FileTree) (path : Path) :
    tree.shape.isFile path = tree.isFile path := by
  rw [isFile, isFile, look_shape]
  rcases tree.look path with fault | _ | ⟨_ | _ | _⟩
  · rfl
  · rfl
  · rfl
  · rfl
  · rfl

/-- A directory stays a directory, with the same names in it. -/
theorem directory?_shape (tree : FileTree) (path : Path) :
    tree.shape.directory? path = (tree.directory? path).map (Option.map Node.shapes) := by
  rw [directory?, directory?, look_shape]
  rcases tree.look path with fault | _ | ⟨_ | _ | _⟩
  · rfl
  · rfl
  · rfl
  · rfl
  · rfl

-- ---------------------------------------------------------------------------
-- Listing and searching
-- ---------------------------------------------------------------------------

mutual

/-- The same names lead to files at or below a node. -/
theorem filesAt_shape (name : Text) : ∀ node : Node, filesAt name node.shape = filesAt name node
  | .file content => by rw [Node.shape, filesAt, filesAt]
  | .dir entries => by rw [Node.shape, filesAt, filesAt, filesIn_shapes entries]

/-- The same names lead to files below a directory. -/
theorem filesIn_shapes : ∀ entries : List (Text × Node),
    filesIn (Node.shapes entries) = filesIn entries
  | [] => rfl
  | (name, node) :: rest => by
    rw [Node.shapes, filesIn, filesIn, filesAt_shape name node, filesIn_shapes rest]

end

mutual

/-- A search takes the same steps at or below a node. -/
theorem stepsAt_shape (probe : List Text → List (List Text)) (name : Text) :
    ∀ node : Node, stepsAt probe name node.shape = stepsAt probe name node
  | .file content => by rw [Node.shape, stepsAt, stepsAt]
  | .dir entries => by
    rw [Node.shape, stepsAt, stepsAt, Node.names_shapes, stepsBelow_shapes probe entries]

/-- A search takes the same steps at the entries of a directory. -/
theorem stepsBelow_shapes (probe : List Text → List (List Text)) :
    ∀ entries : List (Text × Node),
      stepsBelow probe (Node.shapes entries) = stepsBelow probe entries
  | [] => rfl
  | (name, node) :: rest => by
    rw [Node.shapes, stepsBelow, stepsBelow, stepsAt_shape probe name node,
      stepsBelow_shapes probe rest]

end

/-- A search finds the same files, or fails for the same reason. -/
theorem search_shapes (base : Path) (entries : List (Text × Node)) (s : Search) :
    search base (Node.shapes entries) s = search base entries s := by
  rw [search, search, stepsIn, stepsIn, Node.names_shapes, stepsBelow_shapes, found, found,
    filesIn_shapes]

/-- The artifacts of a tree are known from its shape. -/
theorem artifacts_shape (tree : FileTree) (root : Text) :
    tree.shape.artifacts root = tree.artifacts root := by
  rw [artifacts, artifacts, directory?_shape]
  rcases tree.directory? (Path.ofText root) with fault | _ | entries
  · rfl
  · rfl
  · simp only [Except.map, Option.map, search_shapes]
    rfl

/-- Trees of the same shape have the same artifacts. -/
theorem artifacts_congr {tree other : FileTree} (h : tree.shape = other.shape) (root : Text) :
    tree.artifacts root = other.artifacts root := by
  rw [← artifacts_shape tree, h, artifacts_shape]

end FileTree

namespace SourceMatcher

/-- The same files have a name in a tree and in its shape. -/
theorem namesakes_shape (m : SourceMatcher) (name : Text) :
    namesakes { m with tree := m.tree.shape } name = m.namesakes name := by
  rw [namesakes, namesakes, FileTree.directory?_shape]
  rcases m.tree.directory? m.root with fault | _ | entries
  · rfl
  · rfl
  · simp only [Except.map, Option.map, FileTree.search_shapes]
    rfl

/-- The candidates for a source are known from the shape of the tree. -/
theorem candidates_shape (m : SourceMatcher) (source : Text) :
    candidates { m with tree := m.tree.shape } source = m.candidates source := by
  rw [candidates, candidates, FileTree.isFile_shape]
  simp only [namesakes_shape]

/-- In trees of the same shape the same files are candidates. -/
theorem candidates_congr {m : SourceMatcher} {other : FileTree} (h : m.tree.shape = other.shape)
    (source : Text) : candidates { m with tree := other } source = m.candidates source := by
  rw [← candidates_shape m, h]
  exact (candidates_shape { m with tree := other } source).symm

end SourceMatcher
end DelegateAudit

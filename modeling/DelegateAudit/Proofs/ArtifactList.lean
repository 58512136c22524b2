import DelegateAudit.Proofs.Accounting
import DelegateAudit.Proofs.PathOrder
import DelegateAudit.Proofs.ProperTree

/-!
# DelegateAudit — the list of the artifacts

The artifacts below a root are found by a walk that takes the entries of a directory as they come,
and are then sorted. Here is what comes out, said without the walk and without the sorting: all
files below the root whose name ends in `.json`, at any depth, and nothing else; strictly one after
the other in the order of their names (`Path.Before`), which is why none is there twice.

Names are compared one by one, each character by character (`Text.Before`). Written paths compare
in another way, because a slash comes after some other characters: `a/b` is before `a-b`.

Main results:

* `compareLex_eq_lt_iff` — a lexicographic comparison decides the lexicographic order.
* `Path.before_of_le` — of two paths below one root that differ, the one that comes no later comes
  before.
* `FileTree.artifacts_listed_iff` — what the list of the artifacts is, and when there is none.
-/

namespace DelegateAudit

-- ---------------------------------------------------------------------------
-- The order of names
-- ---------------------------------------------------------------------------

/-- The first text comes before the second: the first difference decides, and a start comes before
the whole. -/
def Text.Before : Text → Text → Prop := List.Lex fun c d => c.value < d.value

/-- The first path comes before the second one under the same root: the first names that differ
decide, and a directory comes before what is in it. -/
def Path.Before (p q : Path) : Prop := p.root = q.root ∧ List.Lex Text.Before p.names q.names

instance (s t : Text) : Decidable (Text.Before s t) := inferInstanceAs (Decidable (List.Lex _ s t))

instance (p q : Path) : Decidable (Path.Before p q) := inferInstanceAs (Decidable (_ ∧ _))

/-- The surrogates have numbers that no character has. -/
theorem CodePoint.value_scalar_ne (c : Char) (s : Fin 0x800) :
    (CodePoint.scalar c).value ≠ (CodePoint.surrogate s).value := by
  have hvalid : c.toNat < 0xD800 ∨ 0xDFFF < c.toNat ∧ c.toNat < 0x110000 := c.valid
  have hs : s.val < 0x800 := s.isLt
  show c.toNat ≠ 0xD800 + s.val
  omega

/-- Code points are known by their numbers. -/
theorem CodePoint.value_injective : Function.Injective CodePoint.value := by
  intro c d h
  cases c with
  | scalar c =>
    cases d with
    | scalar d => rw [Char.toNat_inj.mp h]
    | surrogate s => exact absurd h (value_scalar_ne c s)
  | surrogate s =>
    cases d with
    | scalar d => exact absurd h.symm (value_scalar_ne d s)
    | surrogate s' =>
      have hsame : 0xD800 + s.val = 0xD800 + s'.val := h
      rw [Fin.ext (show s.val = s'.val by omega)]

section Lexicographic

variable {α : Type} {cmp : α → α → Ordering} [Std.LawfulEqCmp cmp]

/-- The comparison of lists is the lexicographic order of the comparison of their items. -/
theorem compareLex_eq_lt_iff {r : α → α → Prop} (hlt : ∀ a b, cmp a b = .lt ↔ r a b)
    (s t : List α) : List.compareLex cmp s t = .lt ↔ List.Lex r s t := by
  induction s generalizing t with
  | nil =>
    cases t with
    | nil =>
      rw [List.compareLex_nil_nil]
      exact iff_of_false (by decide) (fun h => by cases h)
    | cons b t =>
      rw [List.compareLex_nil_cons]
      exact iff_of_true rfl .nil
  | cons a s ih =>
    cases t with
    | nil =>
      rw [List.compareLex_cons_nil]
      exact iff_of_false (by decide) (fun h => by cases h)
    | cons b t =>
      rw [List.compareLex_cons_cons, Ordering.then_eq_lt, hlt, ih,
        Std.LawfulEqCmp.compare_eq_iff_eq]
      constructor
      · rintro (h | ⟨rfl, h⟩)
        · exact .rel h
        · exact .cons h
      · intro h
        cases h with
        | rel h => exact .inl h
        | cons h => exact .inr ⟨rfl, h⟩

end Lexicographic

instance : Std.LawfulEqCmp (compareOn CodePoint.value) where
  compare_self := Std.ReflCmp.compare_self
  eq_of_compare h := CodePoint.value_injective (Std.LawfulEqCmp.eq_of_compare h)

instance : Std.LawfulEqCmp Text.cmp := by
  rw [Text.cmp_eq]
  infer_instance

instance : Std.LawfulEqCmp Path.cmpNames := by
  rw [Path.cmpNames_eq]
  infer_instance

/-- Texts compare by their code points, and paths by their names. -/
theorem Text.cmp_eq_lt_iff (s t : Text) : Text.cmp s t = .lt ↔ Text.Before s t := by
  have hvalue : ∀ c d : CodePoint, compareOn CodePoint.value c d = .lt ↔ c.value < d.value :=
    fun c d => Nat.compare_eq_lt
  rw [Text.cmp_eq]
  exact compareLex_eq_lt_iff hvalue s t

theorem Path.cmpNames_eq_lt_iff (s t : List Text) :
    Path.cmpNames s t = .lt ↔ List.Lex Text.Before s t := by
  rw [Path.cmpNames_eq]
  exact compareLex_eq_lt_iff Text.cmp_eq_lt_iff s t

/-- Of two paths under one root that differ, the one that comes no later comes before. -/
theorem Path.before_of_le {p q : Path} (hroot : p.root = q.root) (hne : p ≠ q)
    (hle : Path.le p q = true) : Path.Before p q := by
  have hself : Text.cmp q.root q.root = .eq := Std.ReflCmp.compare_self
  have hnames : (Path.cmpNames p.names q.names).isLE = true := by
    rw [Path.le, hroot, hself] at hle
    exact hle
  refine ⟨hroot, (Path.cmpNames_eq_lt_iff _ _).mp ?_⟩
  rcases Ordering.isLE_iff_eq_lt_or_eq_eq.mp hnames with hlt | heq
  · exact hlt
  · have hsame : p.names = q.names := Std.LawfulEqCmp.eq_of_compare heq
    obtain ⟨root, names⟩ := p
    obtain ⟨root', names'⟩ := q
    cases hroot
    cases hsame
    exact absurd rfl hne

example : Path.Before (Path.ofText "a/b") (Path.ofText "a-b") ∧ Text.Before "a-b" "a/b" := by
  decide

-- ---------------------------------------------------------------------------
-- The list
-- ---------------------------------------------------------------------------

namespace FileTree

/-- Artifacts are listed strictly one after the other. -/
theorem Proper.found_before {entries : List (Text × Node)} (h : Proper entries) (base : Path)
    (tree : FileTree) : (found base entries tree.artifactSearch).Pairwise Path.Before := by
  have hnodup : (found base entries tree.artifactSearch).Nodup :=
    h.nodup_found base fun _ _ _ _ heq => heq
  refine ((found_sorted base entries _).and hnodup).imp_of_mem ?_
  rintro p q hp hq ⟨hle, hne⟩
  obtain ⟨_, _, -, -, rfl⟩ := mem_found_iff.mp hp
  obtain ⟨_, _, -, -, rfl⟩ := mem_found_iff.mp hq
  exact Path.before_of_le rfl hne hle

/-- The files below a directory whose name ends in `.json`, strictly in order. -/
structure ListsArtifacts (base : Path) (entries : List (Text × Node)) (paths : List Path) :
    Prop where
  mem_iff : ∀ path, path ∈ paths ↔ ∃ dirs name, Holds entries (dirs ++ [name]) ∧
    (".json" : Text) <:+ name ∧ path = base.below (dirs ++ [name])
  inOrder : paths.Pairwise Path.Before
  nodup : paths.Nodup

/-- **The list of the artifacts.** There is a list unless the path of the root, or one that the
search looks at below it, is too long, or a directory lies too deep; what the listing ends with
otherwise is one of these reasons. If there is no directory at the root, nothing is on the list; and
if there is one and there is a list, exactly the files below it whose name ends in `.json`, at
whatever depth and in directories of whatever name, each once and strictly in the order of their
names. -/
theorem artifacts_listed_iff (tree : FileTree) (root : Text) (hproper : Proper tree.entries) :
    ((∃ paths, (tree.artifacts root).outcome = .ok paths) ↔
        ∀ fault, ¬ tree.Unlistable root fault) ∧
      (∀ fault, (tree.artifacts root).outcome = .error fault → tree.Unlistable root fault) ∧
      (tree.directory? (Path.ofText root) = .ok none → (tree.artifacts root).outcome = .ok []) ∧
      ∀ entries, tree.directory? (Path.ofText root) = .ok (some entries) →
        (∀ fault, ¬ tree.Unlistable root fault) →
        ∃ paths, (tree.artifacts root).outcome = .ok paths ∧
          ListsArtifacts (Path.ofText root) entries paths := by
  refine ⟨exists_artifacts_iff, fun fault => unlistable_of_artifacts, ?_, ?_⟩
  · intro hnone
    rw [outcome_artifacts, hnone]
  · intro entries hdir hlistable
    have hentries : Proper entries := hproper.of_directory? hdir
    obtain ⟨paths, hpaths⟩ := exists_artifacts_iff.mpr hlistable
    obtain rfl := artifacts_eq_found hdir hpaths
    refine ⟨_, hpaths, fun path => mem_found_artifactSearch_iff, hentries.found_before _ tree, ?_⟩
    exact hentries.nodup_found _ fun _ _ _ _ heq => heq

/-- Hidden files, a directory with the name of an artifact, and names that a written path would put
in another order. -/
def crowdedEntries : List (Text × Node) :=
  [("x.json", .dir [("y.json", .file []), ("z.txt", .file [])]), ("a-b.json", .file []),
   ("a", .dir [("b.json", .file [])]), (".json", .file [])]

/-- The same below a root. -/
def crowdedTree : FileTree := { entries := [("out", .dir crowdedEntries)] }

theorem artifacts_listed_iff_crowded :
    ∃ paths, (crowdedTree.artifacts "out").outcome = .ok paths ∧
      paths.Pairwise Path.Before ∧
      Path.ofText "out/.json" ∈ paths ∧ Path.ofText "out/x.json/y.json" ∈ paths ∧
      Path.ofText "out/x.json" ∉ paths := by
  have hproper : Proper crowdedTree.entries := by
    refine .dir (by decide) (by decide) (.dir (by decide) (by decide) ?_ ?_) .nil
    · exact .file (by decide) (by decide) (.file (by decide) (by decide) .nil)
    refine .file (by decide) (by decide) (.dir (by decide) (by decide) ?_ ?_)
    · exact .file (by decide) (by decide) .nil
    · exact .file (by decide) (by decide) .nil
  have hlistable : ∀ fault, ¬ crowdedTree.Unlistable "out" fault :=
    not_unlistable_of_steps rfl (by decide +kernel)
  obtain ⟨paths, hpaths, hlists⟩ :=
    (artifacts_listed_iff crowdedTree "out" hproper).2.2.2 crowdedEntries rfl hlistable
  refine ⟨paths, hpaths, hlists.inOrder, ?_, ?_, ?_⟩
  · exact (hlists.mem_iff _).mpr ⟨[], ".json", mem_filesIn_iff.mp (by decide), by decide, rfl⟩
  · exact (hlists.mem_iff _).mpr
      ⟨["x.json"], "y.json", mem_filesIn_iff.mp (by decide), by decide, rfl⟩
  · intro hmem
    obtain ⟨dirs, name, hholds, -, heq⟩ := (hlists.mem_iff _).mp hmem
    have hnames : [("out" : Text)] ++ [("x.json" : Text)] = [("out" : Text)] ++ (dirs ++ [name]) :=
      congrArg Path.names heq
    rw [← List.append_cancel_left hnames] at hholds
    exact absurd (mem_filesIn_iff.mpr hholds) (by decide)

/-- There is no directory in an empty tree, and still there is no list. -/
theorem artifacts_overlong_root :
    Proper [] ∧
      (∀ entries, directory? { entries := [] } (Path.ofText Scanner.overlongName) ≠
        .ok (some entries)) ∧
      (artifacts { entries := [] } Scanner.overlongName).outcome =
        .error (.system ⟨.nameTooLong, Scanner.overlongName⟩) := by
  refine ⟨.nil, ?_, by decide +kernel⟩
  intro entries hdir
  have hfile : isFile { entries := [] } (Path.ofText Scanner.overlongName) =
      .error ⟨.nameTooLong, Scanner.overlongName⟩ := by decide +kernel
  rw [isFile] at hfile
  rw [directory?] at hdir
  cases hlook : look { entries := [] } (Path.ofText Scanner.overlongName) with
  | error cause =>
    rw [hlook] at hdir
    cases hdir
  | ok place =>
    rw [hlook] at hfile
    cases hfile

end FileTree
end DelegateAudit

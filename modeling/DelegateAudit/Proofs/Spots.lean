import DelegateAudit.Proofs.Shape

/-!
# DelegateAudit — where a file is, however its path is written

Many written paths lead to one file. Where they lead to is told by the names on the way from
the working directory, the spot of the file: `Text.spot?` finds it from the written path alone,
and the invariant `Place.At` ties it to the place that a walk gets to. A file is read at its spot,
so other content at one spot is not seen at any other.

Main results:

* `FileTree.walk_at` — what a walk gets to is at the spot of the path.
* `FileTree.putAt_replaces` — putting content into a file changes what is at its spot and
  nothing else.
* `FileTree.Replaced.read_eq` — what is read at another spot stays the same.
-/

namespace DelegateAudit

-- ---------------------------------------------------------------------------
-- Spots of written paths
-- ---------------------------------------------------------------------------

/-- Follow one more name, from the names passed so far, innermost first. Above the working directory
there are no spots. -/
def Text.followed (trail : Option (List Text)) (name : Text) : Option (List Text) :=
  if name = "" || name = "." then trail
  else if name = ".." then trail.bind List.tail?
  else trail.map (name.stored :: ·)

/-- The spot of a written path: the names from the working directory on. -/
def Text.spot? (path : Text) : Option (List Text) :=
  let start := if path.head? = some (.scalar '/') then none else some []
  ((path.splitOn '/').foldl Text.followed start).map List.reverse

/-- The node at a spot below another node. -/
def Node.at? : (spot : List Text) → Node → Option Node
  | [], node => some node
  | name :: names, .dir entries => (entries.lookup name).bind (Node.at? names)
  | _ :: _, .file _ => none

def FileTree.at? (tree : FileTree) (spot : List Text) : Option Node :=
  (Node.dir tree.entries).at? spot

theorem Node.at?_append (names more : List Text) (node : Node) :
    node.at? (names ++ more) = (node.at? names).bind (Node.at? more) := by
  induction names generalizing node with
  | nil => rfl
  | cons name rest ih =>
    cases node with
    | file content => rfl
    | dir entries =>
      rw [List.cons_append, Node.at?, Node.at?]
      cases entries.lookup name with
      | none => rfl
      | some inner => exact ih inner

/-- The place is where the trail leads to: around a directory are the directories on the trail. -/
inductive Place.At (tree : FileTree) : Place → (trail : Option (List Text)) → Prop
  | top : At tree (.dir tree.entries []) (some [])
  | dir {entries inner : List (Text × Node)} {around : List (List (Text × Node))}
      {trail : List Text} {name : Text} (houter : At tree (.dir entries around) (some trail))
      (hname : entries.lookup name = some (.dir inner)) :
      At tree (.dir inner (entries :: around)) (some (name :: trail))
  | file {entries : List (Text × Node)} {around : List (List (Text × Node))}
      {trail : List Text} {name : Text} {content : Bytes}
      (houter : At tree (.dir entries around) (some trail))
      (hname : entries.lookup name = some (.file content)) :
      At tree (.file content) (some (name :: trail))
  | outside : At tree .outside none

/-- What there is at a place. -/
def Place.node? : Place → Option Node
  | .dir entries _ => some (.dir entries)
  | .file content => some (.file content)
  | .outside => none

namespace Place.At

variable {tree : FileTree} {place : Place} {trail : Option (List Text)}

/-- One step of a walk follows one name. -/
theorem enter (h : At tree place trail) {name : Text} {next : Place}
    (henter : place.enter name = .ok next) : At tree next (Text.followed trail name) := by
  unfold Place.enter at henter
  unfold Text.followed
  by_cases hstay : (name = "" || name = ".") = true
  · rw [if_pos hstay] at henter ⊢
    cases h with
    | top => cases henter; exact .top
    | dir houter hname => cases henter; exact .dir houter hname
    | file houter hname => cases henter
    | outside => cases henter; exact .outside
  rw [if_neg hstay] at henter ⊢
  by_cases hup : name = ".."
  · rw [if_pos hup] at henter ⊢
    cases h with
    | top => cases henter; exact .outside
    | dir houter hname => cases henter; exact houter
    | file houter hname => cases henter
    | outside => cases henter; exact .outside
  rw [if_neg hup] at henter ⊢
  cases place with
  | file content => cases henter
  | outside => cases henter
  | dir entries around =>
    -- only in a directory there is something to look up
    obtain ⟨names, rfl⟩ : ∃ names, trail = some names := by
      cases h with
      | top => exact ⟨_, rfl⟩
      | dir houter hname => exact ⟨_, rfl⟩
    simp only at henter
    split_ifs at henter
    rcases hname : entries.lookup name.stored with _ | ⟨content | inner⟩
    · rw [hname] at henter
      cases henter
    · rw [hname] at henter
      cases henter
      exact .file h hname
    · rw [hname] at henter
      cases henter
      exact .dir h hname

/-- What one step does, a walk does. -/
theorem walk (h : At tree place trail) {names : List Text} {last : Place}
    (hwalk : names.foldlM Place.enter place = .ok last) :
    At tree last (names.foldl Text.followed trail) := by
  induction names generalizing place trail with
  | nil =>
    cases hwalk
    exact h
  | cons name rest ih =>
    rw [List.foldlM_cons] at hwalk
    cases hnext : place.enter name with
    | error error =>
      rw [hnext] at hwalk
      cases hwalk
    | ok next =>
      rw [hnext] at hwalk
      exact ih (h.enter hnext) hwalk

theorem node (h : At tree place trail) :
    (trail.bind fun names => tree.at? names.reverse) = place.node? := by
  induction h with
  | top => rfl
  | dir houter hname ih =>
    rw [Option.bind_some] at ih ⊢
    rw [List.reverse_cons, FileTree.at?, Node.at?_append, ← FileTree.at?, ih]
    simp [Place.node?, Node.at?, hname]
  | file houter hname ih =>
    rw [Option.bind_some] at ih ⊢
    rw [List.reverse_cons, FileTree.at?, Node.at?_append, ← FileTree.at?, ih]
    simp [Place.node?, Node.at?, hname]
  | outside => rfl

end Place.At

namespace FileTree

variable {tree : FileTree} {path : Text}

/-- **A walk gets to the spot of its path.** -/
theorem walk_at {place : Place} (h : tree.walk path = .ok place) :
    (path.spot?.bind tree.at?) = place.node? := by
  unfold walk at h
  split_ifs at h with hempty hlong habsolute
  · have hat : Place.At tree place _ := Place.At.outside.walk h
    rw [Text.spot?, if_pos habsolute, Option.bind_map]
    exact hat.node
  · have hat : Place.At tree place _ := Place.At.top.walk h
    rw [Text.spot?, if_neg habsolute, Option.bind_map]
    exact hat.node

theorem walk_of_locate {place : Place} (h : tree.locate path = .ok place) :
    tree.walk path = .ok place := by
  unfold locate at h
  cases hrun : unencodable? path with
  | some run => simp [hrun] at h
  | none =>
    simp only [hrun] at h
    split_ifs at h
    cases hwalk : tree.walk path with
    | error error =>
      rw [hwalk] at h
      cases h
    | ok other =>
      rw [hwalk] at h
      cases h
      rfl

-- ---------------------------------------------------------------------------
-- Other content at one spot
-- ---------------------------------------------------------------------------

/-- The second tree has this content in the file at the spot and is otherwise the first one. -/
structure Replaced (spot : List Text) (content : Bytes) (tree changed : FileTree) : Prop where
  shape     : changed.shape = tree.shape
  here      : changed.at? spot = some (.file content)
  elsewhere : ∀ names old, names ≠ spot → tree.at? names = some (.file old) →
    changed.at? names = some (.file old)

theorem Replaced.limits_eq {spot : List Text} {content : Bytes} {tree changed : FileTree}
    (h : Replaced spot content tree changed) : changed.limits = tree.limits := by
  have hlimits : changed.shape.limits = tree.shape.limits := by rw [h.shape]
  exact hlimits

theorem lookup_putEntry (name : Text) (node : Node) (entries : List (Text × Node)) (other : Text) :
    (putEntry name node entries).lookup other =
      if other = name then some node else entries.lookup other := by
  induction entries with
  | nil =>
    rw [putEntry, List.lookup_cons]
    by_cases hname : other = name
    · simp [hname]
    · simp [hname, beq_eq_false_iff_ne.mpr hname]
  | cons entry rest ih =>
    obtain ⟨first, old⟩ := entry
    rw [putEntry]
    by_cases hfirst : first = name
    · subst hfirst
      rw [if_pos rfl, List.lookup_cons, List.lookup_cons]
      by_cases hname : other = first
      · simp [hname]
      · simp [hname, beq_eq_false_iff_ne.mpr hname]
    · rw [if_neg hfirst, List.lookup_cons, List.lookup_cons, ih]
      by_cases hother : other = first
      · subst hother
        simp [hfirst]
      · simp [beq_eq_false_iff_ne.mpr hother]

theorem shapes_putEntry {name : Text} {node old : Node} {entries : List (Text × Node)}
    (hname : entries.lookup name = some old) (hshape : node.shape = old.shape) :
    Node.shapes (putEntry name node entries) = Node.shapes entries := by
  induction entries with
  | nil => cases hname
  | cons entry rest ih =>
    obtain ⟨first, other⟩ := entry
    rw [List.lookup_cons] at hname
    rw [putEntry]
    by_cases hfirst : first = name
    · subst hfirst
      rw [beq_self_eq_true] at hname
      cases hname
      rw [if_pos rfl, Node.shapes, Node.shapes, hshape]
    · rw [beq_eq_false_iff_ne.mpr (Ne.symm hfirst)] at hname
      rw [if_neg hfirst, Node.shapes, Node.shapes, ih hname]

/-- A new entry is seen at spots that start with its name, and at no others. -/
theorem at?_putEntry (name : Text) (node : Node) (entries : List (Text × Node)) (first : Text)
    (names : List Text) :
    (Node.dir (putEntry name node entries)).at? (first :: names) =
      if first = name then node.at? names else (Node.dir entries).at? (first :: names) := by
  rw [Node.at?, lookup_putEntry]
  by_cases hfirst : first = name
  · rw [if_pos hfirst, if_pos hfirst, Option.bind_some]
  · rw [if_neg hfirst, if_neg hfirst, Node.at?]

/-- Putting content where there is a file goes well and changes this file only. -/
theorem putAt_replaces {spot : List Text} {entries : List (Text × Node)} {old : Bytes}
    (hspot : (Node.dir entries).at? spot = some (.file old)) (content : Bytes) (limits : Limits) :
    ∃ changed, putAt (.file content) spot entries = .ok changed ∧
      Replaced spot content ⟨entries, limits⟩ ⟨changed, limits⟩ := by
  induction spot generalizing entries with
  | nil => cases hspot
  | cons name rest ih =>
    rw [Node.at?] at hspot
    obtain ⟨node, hname, hnode⟩ := Option.bind_eq_some_iff.mp hspot
    cases rest with
    | nil =>
      cases hnode
      refine ⟨putEntry name (.file content) entries, ?_, ?_, ?_, ?_⟩
      · simp only [putAt, hname]
      · exact congrArg (FileTree.mk · limits) (shapes_putEntry hname rfl)
      · exact (at?_putEntry name _ entries name []).trans (if_pos rfl)
      · intro names other hne hother
        cases names with
        | nil => cases hother
        | cons first more =>
          refine (at?_putEntry name _ entries first more).trans ?_
          by_cases hfirst : first = name
          · -- below a file there is nothing
            subst hfirst
            rw [FileTree.at?, Node.at?, hname] at hother
            cases more with
            | nil => exact absurd rfl hne
            | cons second more => cases hother
          · rw [if_neg hfirst]
            exact hother
    | cons second rest =>
      cases node with
      | file content => cases hnode
      | dir inner =>
        obtain ⟨changed, hput, hreplaced⟩ := ih hnode
        refine ⟨putEntry name (.dir changed) entries, ?_, ?_, ?_, ?_⟩
        · simp only [putAt, hname, hput]
          rfl
        · have hshapes : Node.shapes changed = Node.shapes inner :=
            congrArg FileTree.entries hreplaced.shape
          refine congrArg (FileTree.mk · limits) (shapes_putEntry hname ?_)
          rw [Node.shape, Node.shape, hshapes]
        · exact (at?_putEntry name _ entries name _).trans ((if_pos rfl).trans hreplaced.here)
        · intro names other hne hother
          cases names with
          | nil => cases hother
          | cons first more =>
            refine (at?_putEntry name _ entries first more).trans ?_
            by_cases hfirst : first = name
            · subst hfirst
              rw [if_pos rfl]
              rw [FileTree.at?, Node.at?, hname] at hother
              refine hreplaced.elsewhere more other ?_ hother
              rintro rfl
              exact hne rfl
            · rw [if_neg hfirst]
              exact hother

/-- A change at one spot is not seen at another. -/
theorem Replaced.read_eq {spot : List Text} {content : Bytes} {changed : FileTree}
    (h : Replaced spot content tree changed) (hpath : path.spot? ≠ some spot) :
    changed.read path = tree.read path := by
  have hshape : (changed.locate path).map Place.shape = (tree.locate path).map Place.shape := by
    rw [← locate_shape, ← locate_shape, h.shape]
  unfold read
  cases hnew : changed.locate path with
  | error fault =>
    rw [hnew] at hshape
    cases hold : tree.locate path with
    | error fault' =>
      rw [hold] at hshape
      cases hshape
      rfl
    | ok place =>
      rw [hold] at hshape
      cases hshape
  | ok place' =>
    rw [hnew] at hshape
    cases hold : tree.locate path with
    | error fault =>
      rw [hold] at hshape
      cases hshape
    | ok place =>
      rw [hold] at hshape
      have hsame : place'.shape = place.shape := Except.ok.inj hshape
      cases place with
      | file old =>
        cases place' with
        | file new =>
          -- both are at the spot of the path, where the trees agree
          obtain ⟨names, hnames, hfile⟩ :=
            Option.bind_eq_some_iff.mp (walk_at (walk_of_locate hold))
          have hkept := h.elsewhere names old (fun heq => hpath (heq ▸ hnames)) hfile
          have hseen := walk_at (walk_of_locate hnew)
          rw [hnames, Option.bind_some, hkept] at hseen
          cases hseen
          rfl
        | _ => cases hsame
      | dir entries around =>
        cases place' with
        | dir => rfl
        | _ => cases hsame
      | outside =>
        cases place' with
        | outside => rfl
        | _ => cases hsame

end FileTree

end DelegateAudit

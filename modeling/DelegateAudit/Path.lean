import DelegateAudit.Text.Basic

/-!
# DelegateAudit — paths

A path is a list of names, absolute or not. Single dots, doubled slashes and slashes at
the end leave no trace; double dots stay, because what they mean depends on the file
tree. The path without any name is the working directory and is written as a dot.

Paths are ordered name by name, so that everything below a directory stays together:
`a/b` comes before `a-b`, although the texts compare the other way.
-/

namespace DelegateAudit

/-- A path. -/
structure Path where
  /-- The slashes that make the path absolute: none, one, or exactly two. -/
  root : Text
  /-- The names, outermost first. -/
  names : List Text
deriving DecidableEq, Repr

namespace Path

/-- The root that a written path starts with. -/
def rootOf : Text → Text
  | .scalar '/' :: .scalar '/' :: .scalar '/' :: _ => "/"
  | .scalar '/' :: .scalar '/' :: _ => "//"
  | .scalar '/' :: _ => "/"
  | _ => ""

/-- Read a written path. -/
def ofText (t : Text) : Path :=
  ⟨rootOf t, (t.splitOn '/').filter fun name => name ≠ [] && name ≠ [.scalar '.']⟩

/-- Write a path. -/
def toText (p : Path) : Text :=
  if p.root.isEmpty && p.names.isEmpty then "." else p.root ++ Text.join "/" p.names

/-- Does the path start at the root of the file system? -/
def isAbsolute (p : Path) : Bool := !p.root.isEmpty

/-- A path taken from another one: an absolute path stays itself. -/
def join (base p : Path) : Path :=
  if p.isAbsolute then p else ⟨base.root, base.names ++ p.names⟩

/-- A path some names further down. -/
def below (base : Path) (names : List Text) : Path := ⟨base.root, base.names ++ names⟩

/-- The last name; there is none in a root or in the working directory. -/
def name (p : Path) : Text := p.names.getLastD []

/-- Name-by-name order of lists of names. -/
def cmpNames : List Text → List Text → Ordering
  | [], [] => .eq
  | [], _ :: _ => .lt
  | _ :: _, [] => .gt
  | a :: s, b :: t => (Text.cmp a b).then (cmpNames s t)

/-- Does the first path come no later than the second? -/
def le (p q : Path) : Bool := ((Text.cmp p.root q.root).then (cmpNames p.names q.names)).isLE

end Path
end DelegateAudit

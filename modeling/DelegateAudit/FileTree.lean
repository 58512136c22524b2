import DelegateAudit.Limits
import DelegateAudit.Path
import DelegateAudit.Text.Utf8

/-!
# DelegateAudit — file trees

The files that a scan can see: the working directory with everything below it. A tree is
a value, so two scans of one tree see the same files, and a change makes another tree.

Walking a written path goes name by name (`Place.enter`). Only directories can be
walked through; a name of more than 255 bytes is too long wherever it is looked up, and
so is a path of 4096 bytes or more, whatever it names.

A search goes through a directory and all directories below it and looks at paths that it
puts together from the names it meets. The deeper it is, the longer these paths are, and one
that is too long ends the search with a fault, although every name on it is fine. So does a
directory that lies deeper than the machine can follow (`Limits`).

A tree is what can be seen from inside the working directory. Everything in it can be read:
there are no permissions. There are files and directories only, and in particular no links,
so what has a name in one directory has no other name. Above the working directory nothing
has a name that a walk could use, and neither has anything at the root, so a path that leaves
the working directory does not lead back into it.

## Contents

* `Node`, `FileTree`        — files and directories.
* `FileTree.locate`         — the node at a written path, or why there is none.
* `FileTree.filesIn`        — the names of all files below a directory.
* `FileTree.search`         — the files that a search finds, or why it fails.
* `FileTree.write`, `FileTree.remove` — changes.
-/

namespace DelegateAudit

/-- A file or a directory. -/
inductive Node where
  | file (content : Bytes)
  | dir (entries : List (Text × Node))
deriving Inhabited

/-- The working directory, on a machine with its limits. -/
structure FileTree where
  entries : List (Text × Node)
  limits : Limits := {}

/-- What can go wrong with a file. -/
inductive SystemError where
  | noEntry
  | accessDenied
  | notDirectory
  | isDirectory
  | nameTooLong
deriving DecidableEq, Repr

namespace SystemError

/-- The number of an error. -/
def number : SystemError → Nat
  | .noEntry => 2
  | .accessDenied => 13
  | .notDirectory => 20
  | .isDirectory => 21
  | .nameTooLong => 36

/-- The name of an error. -/
def wording : SystemError → Text
  | .noEntry => "No such file or directory"
  | .accessDenied => "Permission denied"
  | .notDirectory => "Not a directory"
  | .isDirectory => "Is a directory"
  | .nameTooLong => "File name too long"

end SystemError

/-- An error together with the path it is about. -/
structure SystemFault where
  error : SystemError
  path : Text
deriving DecidableEq, Repr

/-- The wording of an error about a path. -/
def SystemFault.message (fault : SystemFault) : Text :=
  "[Errno " ++ Text.ofNat fault.error.number ++ "] " ++ fault.error.wording ++ ": " ++
    fault.path.quoted

/-- Why a written path leads nowhere. -/
inductive PathFault where
  | system (fault : SystemFault)
  /-- The path has a NUL character. -/
  | nul
  /-- The path has code points without an encoding. -/
  | unencodable (run : BadRun)
deriving DecidableEq, Repr

/-- Is the path too long to be looked at, in one of its names or as a whole? -/
def Path.isOverlong (path : Path) : Bool :=
  path.names.any (fun name => 255 < name.fileSize) || 4096 ≤ path.toText.fileSize

/-- Where a walk along a path has got to. -/
inductive Place where
  /-- In a directory, with the directories around it, innermost first. -/
  | dir (entries : List (Text × Node)) (around : List (List (Text × Node)))
  | file (content : Bytes)
  /-- Above the working directory or at the root. -/
  | outside

namespace Place

/-- One step of a walk. An empty name or a dot stays, but only in a directory. -/
def enter (place : Place) (name : Text) : Except SystemError Place :=
  if name = "" || name = "." then
    match place with
    | .file _ => .error .notDirectory
    | _ => .ok place
  else if name = ".." then
    match place with
    | .file _ => .error .notDirectory
    | .outside => .ok .outside
    | .dir _ [] => .ok .outside
    | .dir _ (entries :: around) => .ok (.dir entries around)
  else
    match place with
    | .file _ => .error .notDirectory
    | .outside => .error (if 255 < name.fileSize then .nameTooLong else .noEntry)
    | .dir entries around =>
      if 255 < name.fileSize then .error .nameTooLong
      else
        match entries.lookup name.stored with
        | none => .error .noEntry
        | some (.file content) => .ok (.file content)
        | some (.dir inner) => .ok (.dir inner (entries :: around))

end Place

namespace FileTree

/-- The place that a written path leads to. -/
def walk (tree : FileTree) (path : Text) : Except SystemError Place :=
  if path.isEmpty then .error .noEntry
  else if 4096 ≤ path.fileSize then .error .nameTooLong
  else
    let start := if path.head? = some (.scalar '/') then .outside else .dir tree.entries []
    (path.splitOn '/').foldlM Place.enter start

/-- Code points in a path that no file system can take. -/
def unencodable? (path : Text) : Option BadRun :=
  BadRun.find? (fun c => c.between 0xD800 0xDC7F || c.between 0xDD00 0xDFFF) 0 path

/-- Has the name an encoding, and no NUL character? No file can have any other name. -/
def canName (name : Text) : Bool := (unencodable? name).isNone && !name.elem (.scalar '\x00')

/-- The place that a written path leads to, or why it leads nowhere. -/
def locate (tree : FileTree) (path : Text) : Except PathFault Place :=
  match unencodable? path with
  | some run => .error (.unencodable run)
  | none =>
    if path.elem (.scalar '\x00') then .error .nul
    else (tree.walk path).mapError fun error => .system ⟨error, path⟩

/-- The content of the file at a written path. -/
def read (tree : FileTree) (path : Text) : Except PathFault Bytes :=
  match tree.locate path with
  | .error fault => .error fault
  | .ok (.file content) => .ok content
  | .ok _ => .error (.system ⟨.isDirectory, path⟩)

/-- What is at a path, if anything. That there is nothing, or no way to it, is an answer; that a
name is too long is a fault. -/
def look (tree : FileTree) (path : Path) : Except SystemFault (Option Place) :=
  match tree.locate path.toText with
  | .ok place => .ok (some place)
  | .error (.system fault) => if fault.error = .nameTooLong then .error fault else .ok none
  | .error _ => .ok none

/-- Is there a file at the path? -/
def isFile (tree : FileTree) (path : Path) : Except SystemFault Bool :=
  (tree.look path).map fun
    | some (.file _) => true
    | _ => false

/-- The entries of the directory at the path, if there is one. -/
def directory? (tree : FileTree) (path : Path) : Except SystemFault (Option (List (Text × Node))) :=
  (tree.look path).map fun
    | some (.dir entries _) => some entries
    | some .outside => some []
    | _ => none

mutual

/-- The names leading to every file at or below a node, its own name first. -/
def filesAt (name : Text) : Node → List (List Text)
  | .file _ => [[name]]
  | .dir entries => (filesIn entries).map (name :: ·)

/-- The names leading to every file below a directory. -/
def filesIn : List (Text × Node) → List (List Text)
  | [] => []
  | (name, node) :: rest => filesAt name node ++ filesIn rest

end

/-! ## Searching -/

/-- What is searched for below a directory. -/
structure Search where
  /-- What is looked at in a directory with entries of these names, as names from there on. No names
  at all stand for the directory itself. -/
  probe : List Text → List (List Text)
  /-- Is a file with this name wanted? -/
  wanted : Text → Bool
  /-- The name that is written for a file that was found. -/
  written : Text → Text
  /-- How many directories, one inside the other, the search goes down. -/
  levels : Nat

namespace Search

/-- All files whose name fits. Each directory is listed, and what fits is looked at. -/
def fitting (levels : Nat) (fits : Text → Bool) : Search where
  probe names := [] :: (names.filter fits).map fun name => [name]
  wanted := fits
  written name := name
  levels

/-- The files with one name. It is looked up in each directory, unless no file can have it, and is
written as it was asked for. -/
def named (levels : Nat) (name : Text) : Search where
  probe _ := if canName name then [[name]] else []
  wanted other := canName name && other = name.stored
  written _ := name
  levels

/-- Directories alone: nothing is found, but each of them is looked at. -/
def directories (levels : Nat) : Search where
  probe _ := [[]]
  wanted _ := false
  written name := name
  levels

end Search

/-- Why a search failed. -/
inductive SearchFault where
  | system (fault : SystemFault)
  /-- There is a directory deeper than the search can go. -/
  | tooDeep
deriving DecidableEq, Repr

/-- One step of a search, at names from the directory where it started. -/
inductive SearchStep where
  /-- Look at something. -/
  | look (names : List Text)
  /-- Go down from a directory into those in it. -/
  | descend (names : List Text)

namespace SearchStep

/-- The same step, taken below a directory with this name. -/
def under (name : Text) : SearchStep → SearchStep
  | .look names => .look (name :: names)
  | .descend names => .descend (name :: names)

/-- A path cannot be looked at. -/
def pathFault? (path : Path) : Option SearchFault :=
  if path.isOverlong then some (.system ⟨.nameTooLong, path.toText⟩) else none

/-- What goes wrong in a step of a search below a path. -/
def fault? (base : Path) (levels : Nat) : SearchStep → Option SearchFault
  | .look names => pathFault? (base.below names)
  | .descend names => if levels < names.length then some .tooDeep else pathFault? (base.below names)

end SearchStep

/-- The steps of a search in a directory itself, given the names of its entries. -/
def stepsHere (probe : List Text → List (List Text)) (names : List Text) : List SearchStep :=
  (probe names).map SearchStep.look ++ [.descend []]

mutual

/-- The steps of a search at a node with some name: none at a file, and in a directory those of the
directory itself and then those below. -/
def stepsAt (probe : List Text → List (List Text)) (name : Text) : Node → List SearchStep
  | .file _ => []
  | .dir entries =>
    (stepsHere probe (entries.map Prod.fst) ++ stepsBelow probe entries).map (SearchStep.under name)

/-- The steps of a search at the entries of a directory. -/
def stepsBelow (probe : List Text → List (List Text)) : List (Text × Node) → List SearchStep
  | [] => []
  | (name, node) :: rest => stepsAt probe name node ++ stepsBelow probe rest

end

/-- The steps of a search in a directory. -/
def stepsIn (probe : List Text → List (List Text)) (entries : List (Text × Node)) :
    List SearchStep :=
  stepsHere probe (entries.map Prod.fst) ++ stepsBelow probe entries

/-- The wanted files below a directory, as paths, in order. -/
def found (base : Path) (entries : List (Text × Node)) (s : Search) : List Path :=
  let files := (filesIn entries).filter fun names => s.wanted (names.getLastD [])
  let paths := files.map fun names => base.below (names.dropLast ++ [s.written (names.getLastD [])])
  paths.mergeSort Path.le

/-- The files that a search finds below a directory. The first step in which something goes wrong
ends it. -/
def search (base : Path) (entries : List (Text × Node)) (s : Search) :
    Except SearchFault (List Path) :=
  match (stepsIn s.probe entries).findSome? (SearchStep.fault? base s.levels) with
  | some fault => .error fault
  | none => .ok (found base entries s)

/-! ## Changes -/

/-- Put an entry into a directory, in place of one with the same name. -/
def putEntry (name : Text) (node : Node) : List (Text × Node) → List (Text × Node)
  | [] => [(name, node)]
  | (n, old) :: rest =>
    if n = name then (n, node) :: rest else (n, old) :: putEntry name node rest

/-- Put a node below a directory, making the directories on the way. -/
def putAt (node : Node) : (names : List Text) → List (Text × Node) →
    Except SystemError (List (Text × Node))
  | [], _ => .error .isDirectory
  | [name], entries =>
    match node, entries.lookup name with
    | .file _, some (.dir _) => .error .isDirectory
    | .dir _, some (.dir _) => .ok entries
    | _, _ => .ok (putEntry name node entries)
  | name :: rest, entries =>
    match entries.lookup name with
    | some (.file _) => .error .notDirectory
    | some (.dir inner) => do
      let inner ← putAt node rest inner
      return putEntry name (.dir inner) entries
    | none => do
      let inner ← putAt node rest []
      return putEntry name (.dir inner) entries

/-- Put a file or a directory at a written path. -/
def write (tree : FileTree) (path : Text) (node : Node) : Except SystemFault FileTree :=
  match putAt node ((Path.ofText path).names.map Text.stored) tree.entries with
  | .ok entries => .ok { tree with entries }
  | .error error => .error ⟨error, path⟩

/-- Take a file away from below a directory. -/
def dropAt : (names : List Text) → List (Text × Node) → Except SystemError (List (Text × Node))
  | [], _ => .error .isDirectory
  | [name], entries =>
    match entries.lookup name with
    | none => .error .noEntry
    | some (.dir _) => .error .isDirectory
    | some (.file _) => .ok (entries.filter fun entry => entry.1 ≠ name)
  | name :: rest, entries =>
    match entries.lookup name with
    | none => .error .noEntry
    | some (.file _) => .error .notDirectory
    | some (.dir inner) => do
      let inner ← dropAt rest inner
      return putEntry name (.dir inner) entries

/-- Take the file at a written path away. -/
def remove (tree : FileTree) (path : Text) : Except SystemFault FileTree :=
  match dropAt ((Path.ofText path).names.map Text.stored) tree.entries with
  | .ok entries => .ok { tree with entries }
  | .error error => .error ⟨error, path⟩

end FileTree
end DelegateAudit

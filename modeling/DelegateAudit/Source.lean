import DelegateAudit.Glob
import DelegateAudit.Rules

/-!
# DelegateAudit — source files

An artifact names its sources by paths that were valid where it was compiled. A path that
leads to a file here is that file; otherwise every file with the same name below the
source directory is a candidate, since paths of dependencies are often remapped. A name
with wildcards stands for all names it matches.

A source matches when some line of some candidate has one of the patterns. The search
knows no comments and no strings.
-/

namespace DelegateAudit

/-- Where sources are looked for, and what for. -/
structure SourceMatcher where
  tree : FileTree
  root : Path
  patterns : SourcePatterns

namespace SourceMatcher

/-- Does some line of a file's content have one of the patterns? -/
def contentMatches (patterns : SourcePatterns) (content : Bytes) : Bool :=
  content.decodeUtf8Lossy.unifyNewlines.fileLines.any patterns.search

/-- Does some line of the file at a path have one of the patterns? A file that cannot be read has
none. -/
def fileMatches (m : SourceMatcher) (path : Path) : Run Bool :=
  match m.tree.read path.toText with
  | .ok content => pure (contentMatches m.patterns content)
  | .error fault => do
    Run.log .debug ("cannot read source " ++ path.toText ++ ": " ++ fault.message)
    pure false

/-- How files with a given name are searched for; the name may have wildcards. -/
def nameSearch (m : SourceMatcher) (name : Text) : FileTree.Search :=
  let levels := m.tree.limits.sourceLevels name
  if name = "**" then .directories levels
  else if Glob.isWild name then .fitting levels (Glob.matchesName name)
  else .named levels name

/-- The files below the source directory with a given name, which may have wildcards. -/
def namesakes (m : SourceMatcher) (name : Text) : Except Fault (List Path) :=
  if Text.contains "**" name && name ≠ "**" then .error .badWildcard
  else
    match m.tree.directory? m.root with
    | .error fault => .error (.system fault)
    | .ok none => .ok []
    | .ok (some entries) => (FileTree.search m.root entries (m.nameSearch name)).mapError .ofSearch

/-- The files that a source path may mean. -/
def candidates (m : SourceMatcher) (source : Text) : Run (List Path) :=
  let path := m.root.join (Path.ofText source)
  match m.tree.isFile path with
  | .error fault => Run.fail (.system fault)
  | .ok true => pure [path]
  | .ok false =>
    let name := (Path.ofText source).name
    if name.isEmpty then pure []
    else
      match m.namesakes name with
      | .ok found => pure found
      | .error (.system fault) => do
        Run.log .debug ("filename search for " ++ name ++ " failed: " ++ fault.message)
        pure []
      | .error fault => Run.fail fault

/-- Does one of the files match? The first one that does is logged. -/
def anyMatches (m : SourceMatcher) : List Path → Run Bool
  | [] => pure false
  | path :: rest => do
    if ← m.fileMatches path then
      Run.log .debug ("source delegatecall pattern: " ++ path.toText)
      pure true
    else m.anyMatches rest

/-- Does a source match? A missing or empty path does not. -/
def matchesSource (m : SourceMatcher) : Option Text → Run Bool
  | none | some [] => pure false
  | some source => do
    let found ← m.candidates source
    m.anyMatches found

/-- Those of some source paths that end in `.sol` and match, added to the ones found before. A path
already found is not looked at again. -/
def addImportHits (m : SourceMatcher) (hits : List Text) : List Text → Run (List Text)
  | [] => pure hits
  | source :: rest =>
    if !(".sol" : Text).isSuffixOf source || hits.elem source then m.addImportHits hits rest
    else do
      if ← m.matchesSource (some source) then m.addImportHits (hits ++ [source]) rest
      else m.addImportHits hits rest

/-- The source paths that end in `.sol` and match, in order, each once. -/
def importHits (m : SourceMatcher) (sources : List Text) : Run (List Text) :=
  m.addImportHits [] sources

end SourceMatcher
end DelegateAudit

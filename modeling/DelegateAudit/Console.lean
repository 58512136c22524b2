import DelegateAudit.Run
import DelegateAudit.Text.Blank
import DelegateAudit.Text.Cluster

/-!
# DelegateAudit — the console

What is printed goes to a terminal: bells, backspaces and the like are left out, and tabs
are filled up with blanks to the next multiple of eight columns. Results are printed as
they are (`Console.printed`). Notices about the run itself are wrapped to lines of eighty
columns as well (`Console.noticed`), between words where possible.

Where results go, not every text may be taken, half a surrogate pair for one (`Sink`). A text is
taken as a whole or not at all, and one that is not taken ends the run (`Console.through`). Notices
and log entries are always taken: what has no encoding there is written as an escape, which is not
modelled. Colours, styles and pictograms by their names are left out too, since nothing asks for
them, and so is a terminal that tells its own width.
-/

namespace DelegateAudit

/-- Where results go. -/
structure Sink where
  /-- Why a text is not taken, if it is not. -/
  refusal? : Text → Option Text := fun _ => none

/-- What takes texts that have an encoding in UTF-8, and no others. -/
def Sink.utf8 : Sink where
  refusal? t :=
    match t.encodeUtf8 with
    | .ok _ => none
    | .error run =>
      some (run.utf8Message ++
        "\n*** You may need to add PYTHONIOENCODING=utf-8 to your environment ***")

namespace Console

/-- The columns of a line that is wrapped. -/
def lineWidth : Nat := 80

/-- The columns from one tab stop to the next. -/
def tabWidth : Nat := 8

/-- Characters that would move the cursor or ring the bell. -/
def isControl (c : CodePoint) : Bool :=
  c.value = 0x07 || c.value = 0x08 || c.value = 0x0B || c.value = 0x0C || c.value = 0x0D

/-- Lay out the parts of a line between its tabs, some columns being written. A tab is at least one
blank, which is measured with the part before it. -/
def alignParts : (column : Nat) → List Text → Text
  | _, [] => []
  | _, [part] => part
  | column, part :: rest =>
    let shown := part ++ " "
    let reached := column + shown.width
    let filled := (tabWidth - reached % tabWidth) % tabWidth
    shown ++ Text.blanks filled ++ alignParts (reached + filled) rest

/-- Fill up the tabs of a line. -/
def expandTabs (line : Text) : Text := alignParts 0 (line.splitOn (.scalar '\t'))

/-- The lines of a text as they are shown. -/
def shownLines (t : Text) : List Text :=
  ((t.filter fun c => !isControl c).splitOn (.scalar '\n')).map expandTabs

/-- A printed text, with the line feed that ends it. -/
def printed (t : Text) : Text := Text.join "\n" (shownLines t) ++ "\n"

/-! ## Wrapping -/

/-- The first word of a text, with the blanks around it, and what follows. There is no word in
blanks. -/
def takeWord (t : Text) : Text × Text :=
  let before := t.takeWhile CodePoint.isBlank
  let word := (t.dropWhile CodePoint.isBlank).takeWhile fun c => !c.isBlank
  let rest := (t.dropWhile CodePoint.isBlank).dropWhile fun c => !c.isBlank
  (before ++ word ++ rest.takeWhile CodePoint.isBlank, rest.dropWhile CodePoint.isBlank)

/-- The words of a text. -/
def wordsFrom : (fuel : Nat) → Text → List Text
  | 0, _ => []
  | fuel + 1, t =>
    if t.all CodePoint.isBlank then []
    else
      let (word, rest) := takeWord t
      word :: wordsFrom fuel rest

/-- The words of a text, each with the blanks around it. -/
def words (t : Text) : List Text := wordsFrom (t.length + 1) t

/-- Cut a text, given by its clusters, into pieces that fill at most some columns each. -/
def chunksFrom (limit : Nat) : (column : Nat) → (piece : Text) → List Cluster → List Text
  | _, piece, [] => [piece]
  | column, piece, cluster :: rest =>
    if limit < column + cluster.width then
      piece :: chunksFrom limit cluster.width cluster.text rest
    else chunksFrom limit (column + cluster.width) (piece ++ cluster.text) rest

/-- How far wrapping has got: the lines already ended, and the line being filled. -/
structure Wrapping where
  /-- The ended lines, last first. -/
  ended : List Text := []
  line : Text := []
  /-- Has anything been put on any line? -/
  started : Bool := false
  /-- The columns of the line that are taken. -/
  column : Nat := 0

namespace Wrapping

/-- Put a piece on a new line, unless it is the very first. -/
def breakBefore (w : Wrapping) (piece : Text) : Wrapping :=
  if w.started then ⟨w.line :: w.ended, piece, true, piece.width⟩
  else ⟨w.ended, piece, true, piece.width⟩

/-- Put a piece on the same line. -/
def append (w : Wrapping) (piece : Text) : Wrapping :=
  ⟨w.ended, w.line ++ piece, true, w.column + piece.width⟩

/-- Put a word on the line if it fits without the blanks after it, else on a new one; a word longer
than any line is cut. -/
def addWord (w : Wrapping) (word : Text) : Wrapping :=
  let size := word.stripRight.width
  if size + w.column ≤ lineWidth then w.append word
  else if size ≤ lineWidth then w.breakBefore word
  else (chunksFrom lineWidth 0 [] word.clusters).foldl breakBefore w

/-- All lines. -/
def lines (w : Wrapping) : List Text := (w.line :: w.ended).reverse

end Wrapping

/-- Drop blanks at the end of a line that has more characters than columns. -/
def trimLine (line : Text) : Text :=
  let blanks := (line.reverse.takeWhile CodePoint.isBlank).length
  line.take (line.length - min blanks (line.length - lineWidth))

/-- The part of a text, given by its clusters, that fits in some columns; one that would be cut in
half leaves a blank. -/
def cropFrom : (columns : Nat) → List Cluster → Text
  | _, [] => []
  | columns, cluster :: rest =>
    if cluster.width ≤ columns then cluster.text ++ cropFrom (columns - cluster.width) rest
    else Text.blanks columns

/-- Crop a line that is too wide. -/
def crop (line : Text) : Text :=
  if line.width ≤ lineWidth then line else cropFrom lineWidth line.clusters

/-- A line, wrapped. Blanks alone are no words and stay on one line. -/
def wrap (line : Text) : List Text :=
  let lines :=
    if line.all CodePoint.isBlank then [line]
    else ((words line).foldl Wrapping.addWord {}).lines
  lines.map fun line => crop (trimLine line)

/-- A notice, wrapped, with the line feed that ends it. -/
def noticed (t : Text) : Text := Text.join "\n" ((shownLines t).flatMap wrap) ++ "\n"

/-! ## Journals -/

/-- What a run prints for the reader of the results. -/
def output (journal : List Event) : Text :=
  journal.flatMap fun
    | .print text => printed text
    | _ => []

/-- Why an event cannot happen, if results go to a sink. -/
def refusal? (sink : Sink) : Event → Option Text
  | .print text => sink.refusal? (printed text)
  | _ => none

/-- A run with its results going to a sink: it ends with the first text that is not taken. -/
def through {α : Type} (sink : Sink) (run : Run α) : Run α :=
  match run.journal.findSome? (refusal? sink) with
  | none => run
  | some reason =>
    ⟨.error (.unprintable reason),
      run.journal.takeWhile fun event => (refusal? sink event).isNone⟩

/-- A log entry as it is shown: when debugging all of them, otherwise only warnings. -/
def logged (debug : Bool) (level : Level) (message : Text) : Text :=
  if debug then "[DBG] " ++ message ++ "\n"
  else if level = .warning then level.name ++ ": " ++ message ++ "\n"
  else []

/-- What a run tells about itself. -/
def errors (debug : Bool) (journal : List Event) : Text :=
  journal.flatMap fun
    | .notice text => noticed text
    | .log level message => logged debug level message
    | _ => []

end Console
end DelegateAudit

import DelegateAudit.Text.Blank
import DelegateAudit.Text.Digit
import DelegateAudit.Text.Word

/-!
# DelegateAudit — paragraphs

A paragraph is broken into lines of limited length (`Paragraph.wrap`). Lines end between
words, after the hyphen of a hyphenated word, or next to a dash of two or more hyphens
between words. What is longer than a line is cut, after a hyphen if it has one.

A text is first cut into chunks that stay together (`Paragraph.chunks`); no character is
lost by that.
-/

namespace DelegateAudit.Paragraph

/-! ## Chunks -/

/-- Blanks that may become line ends. -/
def isSpace (c : CodePoint) : Bool := c = .scalar ' ' || c.between 0x09 0x0D

/-- Is this a letter or an underscore: a word character that is no digit? -/
def isLetter (c : CodePoint) : Bool := c.isWord && !c.isDigit

/-- Characters after which a dash is taken for one between words. -/
def isWordPart (c : CodePoint) : Bool :=
  c.isWord || ("!\"'&.,?" : Text).elem c

/-- The number of hyphens at the front, if they are a dash with a word after it. -/
def dash? (t : Text) : Option Nat :=
  let hyphens := t.takeWhile fun c => c = .scalar '-'
  if 2 ≤ hyphens.length && (t.drop hyphens.length).head?.any CodePoint.isWord then
    some hyphens.length
  else none

/-- May a line end after a hyphen, given what comes before it, last character first, and after? -/
def breaksAfterHyphen (before after : Text) : Bool :=
  let leads :=
    match before with
    | a :: b :: rest =>
      (isLetter a && isLetter b) ||
        (isLetter a && b = .scalar '-' && rest.head?.any isLetter)
    | _ => false
  let follows :=
    match after with
    | a :: b :: rest =>
      isLetter a && (isLetter b || (b = .scalar '-' && rest.head?.any isLetter))
    | _ => false
  leads && follows

/-- Does a word end here, given what comes before, last character first, and after? -/
def wordEnds (before after : Text) : Bool :=
  match after with
  | [] => true
  | c :: _ => isSpace c || (before.head?.any isWordPart && (dash? after).isSome)

/-- The length of the word chunk at the front of a text that goes on after its first character,
given what comes before it, last character first. -/
def wordLength : (before after : Text) → Nat
  | _, [] => 0
  | before, c :: rest =>
    if c = .scalar '-' && breaksAfterHyphen before rest then 1
    else if wordEnds before (c :: rest) then 0
    else 1 + wordLength (c :: before) rest

/-- The length of the chunk at the front of a text. -/
def chunkLength (before : Text) : Text → Nat
  | [] => 0
  | c :: rest =>
    if isSpace c then 1 + (rest.takeWhile isSpace).length
    else
      match if before.head?.any isWordPart then dash? (c :: rest) else none with
      | some length => length
      | none => 1 + wordLength (c :: before) rest

/-- The chunks of a text, given what comes before it, last character first. -/
def chunksFrom : (fuel : Nat) → (before : Text) → Text → List Text
  | 0, _, _ => []
  | _, _, [] => []
  | fuel + 1, before, t =>
    let length := chunkLength before t
    t.take length :: chunksFrom fuel ((t.take length).reverse ++ before) (t.drop length)

/-- The chunks of a text. -/
def chunks (t : Text) : List Text := chunksFrom t.length [] t

/-! ## Lines -/

/-- Is this chunk nothing but blanks? -/
def isGap (chunk : Text) : Bool := chunk.all CodePoint.isBlank

/-- Chunks that fit on a line together, and the others. -/
def fill (room : Nat) : List Text → List Text × List Text
  | [] => ([], [])
  | chunk :: rest =>
    if chunk.length ≤ room then
      let (line, others) := fill (room - chunk.length) rest
      (chunk :: line, others)
    else ([], chunk :: rest)

/-- Where to cut a chunk that is longer than the room for it: after the last hyphen that fits and
has something else before it, else at the end of the room. -/
def cutAt (room : Nat) (chunk : Text) : Nat :=
  let fitting := chunk.take room
  let tail := fitting.reverse.takeWhile fun c => c ≠ .scalar '-'
  let upTo := fitting.length - tail.length
  if (fitting.take (upTo - 1)).any fun c => c ≠ .scalar '-' then upTo else room

/-- The chunks of a line and the chunks after it. -/
def takeLine (width : Nat) (all : List Text) : List Text × List Text :=
  match fill width all with
  | (line, chunk :: rest) =>
    if width < chunk.length then
      let cut := cutAt (width - line.flatten.length) chunk
      (line ++ [chunk.take cut], chunk.drop cut :: rest)
    else (line, chunk :: rest)
  | (line, []) => (line, [])

/-- A list without its last chunk, if that is blank. -/
def dropLastGap (line : List Text) : List Text :=
  if line.getLast?.any isGap then line.dropLast else line

/-- The lines of chunks. Blanks at a line's end go, and so do those at its start, except at the very
front. -/
def linesFrom (width : Nat) : (fuel : Nat) → (atFront : Bool) → List Text → List Text
  | 0, _, _ => []
  | _, _, [] => []
  | fuel + 1, atFront, chunk :: rest =>
    let all := if !atFront && isGap chunk then rest else chunk :: rest
    let (line, others) := takeLine width all
    let shown := dropLastGap line
    if shown.isEmpty then linesFrom width fuel atFront others
    else shown.flatten :: linesFrom width fuel false others

/-- The lines of a paragraph. -/
def wrap (width : Nat) (t : Text) : List Text := linesFrom width (2 * t.length + 1) true (chunks t)

end DelegateAudit.Paragraph

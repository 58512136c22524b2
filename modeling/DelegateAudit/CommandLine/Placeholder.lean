import DelegateAudit.Json.Value

/-!
# DelegateAudit — placeholders in help texts

What an entry of a help text is for may mention facts about the entry. A percent sign starts a
placeholder; two of them stand for one. A placeholder has, in this order,

* the name of a fact in parentheses, which may have parentheses inside;
* marks: `-` to the left, `+` and blank before numbers without a sign, `#` in full, `0` filled
  with zeros;
* the least width, and after a point the precision; a star takes one of them from the fact itself;
* `h`, `l` or `L`, which mean nothing;
* a letter, which says how the fact is shown.

A placeholder without a name stands for all facts at once, and only the first one can. A fact
serves one purpose: after a star nothing is left for the letter.

* `expand`              — a text with its placeholders replaced.
* `expand_of_no_percent` — a text without percent signs stays as it is.
-/

namespace DelegateAudit.CommandLine

/-! ## Facts -/

/-- A fact about an entry. -/
inductive Fact where
  | absent
  | truth (b : Bool)
  | text (t : Text)
  | texts (items : List Text)
deriving DecidableEq, Repr

/-- Facts by name. -/
abbrev Facts := List (Text × Fact)

/-- A fact as a value, for messages. -/
def Fact.value : Fact → Json.Value
  | .absent => .null
  | .truth b => .bool b
  | .text t => .str t
  | .texts items => .arr (items.map .str)

/-- What a placeholder is about. -/
inductive Subject where
  | fact (f : Fact)
  | all (facts : Facts)
deriving DecidableEq, Repr

namespace Subject

/-- A subject as a value, for messages. -/
def value : Subject → Json.Value
  | .fact f => f.value
  | .all facts => .obj (facts.map fun (name, f) => (name, f.value))

/-- The number a subject is: only truth values are numbers. -/
def number? : Subject → Option Nat
  | .fact (.truth b) => some b.toNat
  | _ => none

/-- The single character a subject is, given by itself or by its number. -/
def character? : Subject → Option CodePoint
  | .fact (.text [c]) => some c
  | s => s.number?.map fun n => .scalar (Char.ofNat n)

end Subject

/-! ## Faults -/

/-- What is wrong with a placeholder. -/
inductive PlaceholderFault where
  /-- A letter that means nothing, at some position. -/
  | unknownLetter (letter : CodePoint) (position : Nat)
  /-- Nothing is known under this name. -/
  | unknownName (name : Text)
  /-- The text ends too early. -/
  | unfinished
  /-- The name in parentheses has no end. -/
  | unfinishedName
  | widthTooBig
  | precisionTooBig
  /-- A star takes something that is no number. -/
  | badStar
  /-- There is nothing left to show. -/
  | nothingLeft
  /-- The letter shows numbers, and this kind of fact is none. -/
  | notNumber (letter : CodePoint) (kind : Text)
  /-- The letter shows whole numbers in another base, and this kind of fact is none. -/
  | notWhole (letter : CodePoint) (kind : Text)
  /-- The letter shows decimal fractions, and this kind of fact is no number. -/
  | notFraction (kind : Text)
  | notCharacter
deriving DecidableEq, Repr

/-- A letter as a complaint shows it. -/
def shownLetter (letter : CodePoint) : Text :=
  if letter.between 0x1F 0x7E then [letter] else "?"

/-- The wording of a bad placeholder. -/
def PlaceholderFault.message : PlaceholderFault → Text
  | .unknownLetter letter position =>
    "unsupported format character '" ++ shownLetter letter ++ "' (0x" ++
      Text.ofHex 1 letter.value ++ ") at index " ++ Text.ofNat position
  | .unknownName name => name.quoted
  | .unfinished => "incomplete format"
  | .unfinishedName => "incomplete format key"
  | .widthTooBig => "width too big"
  | .precisionTooBig => "precision too big"
  | .badStar => "* wants int"
  | .nothingLeft => "not enough arguments for format string"
  | .notNumber letter kind =>
    "%" ++ letter :: " format: a real number is required, not " ++ kind
  | .notWhole letter kind => "%" ++ letter :: " format: an integer is required, not " ++ kind
  | .notFraction kind => "must be real number, not " ++ kind
  | .notCharacter => "%c requires int or char"

/-! ## Layout -/

/-- How a subject is laid out. -/
structure Layout where
  /-- To the left of its width. -/
  left : Bool := false
  /-- A plus sign before numbers. -/
  plus : Bool := false
  /-- A blank before numbers. -/
  blank : Bool := false
  /-- The base of a number and the point of a fraction are always written. -/
  full : Bool := false
  /-- Zeros fill the width before numbers. -/
  zeros : Bool := false
  width : Nat := 0
  precision : Option Nat := none

namespace Layout

/-- Fill a text up to the width. -/
def fill (layout : Layout) (t : Text) : Text :=
  if layout.left then t.padRight layout.width else Text.blanks (layout.width - t.length) ++ t

/-- Lay out a text, of which no more is shown than the precision says. -/
def text (layout : Layout) (t : Text) : Text :=
  layout.fill (match layout.precision with | none => t | some n => t.take n)

/-- What stands before a number that has no sign. -/
def sign (layout : Layout) : Text :=
  if layout.plus then "+" else if layout.blank then " " else []

/-- Lay out the digits of a number. Zeros go between what stands before the digits and the digits.
-/
def digits (layout : Layout) (base digits : Text) : Text :=
  let lead := layout.sign ++ base
  if layout.zeros && !layout.left then
    lead ++ Text.zeros (layout.width - lead.length - digits.length) ++ digits
  else layout.fill (lead ++ digits)

/-- Lay out a whole number below two, whose only digit is the same in all bases. The precision is
the least number of digits. -/
def whole (layout : Layout) (base : Text) (n : Nat) : Text :=
  let digit := Text.ofNat n
  layout.digits (if layout.full then base else [])
    (Text.zeros (layout.precision.getD 0 - digit.length) ++ digit)

/-- A whole number below two with some places after the point. -/
def places (layout : Layout) (n places : Nat) : Text :=
  let point : Text := if places = 0 && !layout.full then [] else "."
  Text.ofNat n ++ point ++ Text.zeros places

/-- The places after the point if none are given. -/
def defaultPlaces : Nat := 6

/-- Lay out a whole number below two as a decimal fraction. -/
def fixed (layout : Layout) (n : Nat) : Text :=
  layout.digits [] (layout.places n (layout.precision.getD defaultPlaces))

/-- Lay out a whole number below two as a decimal fraction with an exponent. -/
def scientific (layout : Layout) (exponent : Text) (n : Nat) : Text :=
  layout.digits [] (layout.places n (layout.precision.getD defaultPlaces) ++ exponent)

/-- Lay out a whole number below two with as many digits as the precision says, zeros at the end
only in full. -/
def general (layout : Layout) (n : Nat) : Text :=
  layout.digits []
    (layout.places n (if layout.full then layout.precision.getD defaultPlaces - 1 else 0))

/-- Show a subject as a letter at some position says. -/
def shown (layout : Layout) (subject : Subject) (letter : CodePoint) (position : Nat) :
    Except PlaceholderFault Text :=
  let value := subject.value
  let number (wrong : PlaceholderFault) (write : Nat → Text) : Except PlaceholderFault Text :=
    match subject.number? with
    | some n => .ok (write n)
    | none => .error wrong
  match letter with
  | .scalar 's' => .ok (layout.text value.display)
  | .scalar 'r' => .ok (layout.text value.quoted)
  | .scalar 'a' => .ok (layout.text value.quoted.escapeNonAscii)
  | .scalar 'd' | .scalar 'i' | .scalar 'u' =>
    number (.notNumber letter value.kindName) (layout.whole [])
  | .scalar 'o' => number (.notWhole letter value.kindName) (layout.whole "0o")
  | .scalar 'x' => number (.notWhole letter value.kindName) (layout.whole "0x")
  | .scalar 'X' => number (.notWhole letter value.kindName) (layout.whole "0X")
  | .scalar 'e' => number (.notFraction value.kindName) (layout.scientific "e+00")
  | .scalar 'E' => number (.notFraction value.kindName) (layout.scientific "E+00")
  | .scalar 'f' | .scalar 'F' => number (.notFraction value.kindName) layout.fixed
  | .scalar 'g' | .scalar 'G' => number (.notFraction value.kindName) layout.general
  | .scalar 'c' =>
    match subject.character? with
    | some c => .ok (layout.fill [c])
    | none => .error .notCharacter
  | _ => .error (.unknownLetter letter position)

end Layout

/-! ## Reading placeholders -/

/-- The name before the closing parenthesis, and what follows. Parentheses in it come in pairs. -/
def takeName : (depth : Nat) → Text → Option (Text × Text)
  | _, [] => none
  | depth, c :: rest =>
    let go (depth : Nat) := (takeName depth rest).map fun (name, after) => (c :: name, after)
    if c = .scalar '(' then go (depth + 1)
    else if c = .scalar ')' then
      match depth with
      | 0 => some ([], rest)
      | depth + 1 => go depth
    else go depth

/-- What a placeholder is about: the fact it names, or else what is left of all facts. -/
def takeSubject (facts : Facts) (left : Option Subject) :
    Text → Except PlaceholderFault (Option Subject × Text)
  | .scalar '(' :: inner =>
    match takeName 0 inner with
    | none => .error .unfinishedName
    | some (name, rest) =>
      match facts.lookup name with
      | none => .error (.unknownName name)
      | some f => .ok (some (.fact f), rest)
  | t => .ok (left, t)

/-- The marks of a placeholder. -/
def takeMarks (layout : Layout) : Text → Layout × Text
  | .scalar '-' :: rest => takeMarks { layout with left := true } rest
  | .scalar '+' :: rest => takeMarks { layout with plus := true } rest
  | .scalar ' ' :: rest => takeMarks { layout with blank := true } rest
  | .scalar '#' :: rest => takeMarks { layout with full := true } rest
  | .scalar '0' :: rest => takeMarks { layout with zeros := true } rest
  | t => (layout, t)

/-- A width or precision of at most `limit`, and what is left of the subject. No digits are zero. -/
def takeSize (limit : Nat) (tooBig : PlaceholderFault) (subject : Option Subject) :
    Text → Except PlaceholderFault (Nat × Option Subject × Text)
  | .scalar '*' :: rest =>
    match subject with
    | none => .error .nothingLeft
    | some s =>
      match s.number? with
      | none => .error .badStar
      | some n => .ok (n, none, rest)
  | t =>
    let isDigit (c : CodePoint) := c.between 0x30 0x39
    let size := (t.takeWhile isDigit).foldl (fun n c => 10 * n + (c.value - 0x30)) 0
    if limit < size then .error tooBig else .ok (size, subject, t.dropWhile isDigit)

/-- The biggest width. -/
def widthLimit : Nat := 0x7FFFFFFFFFFFFFFF

/-- The biggest precision. -/
def precisionLimit : Nat := 0x7FFFFFFF

/-- The precision of a placeholder, if it has a point. -/
def takePrecision (subject : Option Subject) :
    Text → Except PlaceholderFault (Option Nat × Option Subject × Text)
  | .scalar '.' :: rest => do
    let (size, subject, rest) ← takeSize precisionLimit .precisionTooBig subject rest
    return (some size, subject, rest)
  | t => .ok (none, subject, t)

/-- Pass over a letter that means nothing. -/
def skipLength : Text → Text
  | .scalar 'h' :: rest | .scalar 'l' :: rest | .scalar 'L' :: rest => rest
  | t => t

/-- Replace the placeholder at the front of a text, its percent sign already taken: what is shown,
and the text after it. The whole text has `size` code points. -/
def replace (facts : Facts) (size : Nat) (left : Option Subject) (t : Text) :
    Except PlaceholderFault (Text × Text) := do
  let (subject, t) ← takeSubject facts left t
  let (layout, t) := takeMarks {} t
  let (width, subject, t) ← takeSize widthLimit .widthTooBig subject t
  let (precision, subject, t) ← takePrecision subject t
  match skipLength t, subject with
  | [], _ => .error .unfinished
  | _, none => .error .nothingLeft
  | letter :: rest, some s =>
    let shown ← { layout with width, precision }.shown s letter (size - rest.length - 1)
    return (shown, rest)

/-- Replace the placeholders of the end of a text of `size` code points, after passing over some
that belong to the last placeholder. -/
def expandFrom (facts : Facts) (size : Nat) : (skip : Nat) → (left : Option Subject) → Text →
    Except PlaceholderFault Text
  | _, _, [] => .ok []
  | skip + 1, left, _ :: rest => expandFrom facts size skip left rest
  | 0, left, c :: rest =>
    if c ≠ .scalar '%' then (expandFrom facts size 0 left rest).map (c :: ·)
    else if rest.head? = some (.scalar '%') then
      (expandFrom facts size 1 left rest).map (c :: ·)
    else
      match replace facts size left rest with
      | .error fault => .error fault
      | .ok (shown, after) =>
        (expandFrom facts size (rest.length - after.length) none rest).map (shown ++ ·)

/-- A text with its placeholders replaced. -/
def expand (facts : Facts) (t : Text) : Except PlaceholderFault Text :=
  expandFrom facts t.length 0 (some (.all facts)) t

/-- A text without percent signs has nothing to replace. -/
theorem expand_of_no_percent (facts : Facts) (t : Text) (h : .scalar '%' ∉ t) :
    expand facts t = .ok t := by
  unfold expand
  generalize t.length = size
  generalize some (Subject.all facts) = left
  induction t with
  | nil => rfl
  | cons c rest ih =>
    rw [List.mem_cons, not_or] at h
    have hc : c ≠ .scalar '%' := fun e => h.1 e.symm
    rw [expandFrom, if_pos hc, ih h.2]
    rfl

end DelegateAudit.CommandLine

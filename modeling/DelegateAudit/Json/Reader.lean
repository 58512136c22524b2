import DelegateAudit.Bytes
import DelegateAudit.Json.Value
import DelegateAudit.Text.Digit

/-!
# DelegateAudit — reading JSON

A reader that says exactly where a text stops being JSON. Every function takes the
rest of the text and returns what it read together with what is left; a fault keeps
the rest at which it was noticed, and `parse` turns the length of that rest into an
offset, a line and a column.

Beyond standard JSON the reader takes `NaN`, `Infinity` and `-Infinity`. A number ends
at its longest valid start. How many digits a whole number may have and how deep lists and
objects may nest is told beforehand (`Bounds`). A repeated key keeps its first place and takes
its last value. Half a surrogate pair stays what it is.

Nesting bounds the recursion: `value limit (depth + 1)` reads the items of a list with
`value limit depth`.
-/

namespace DelegateAudit.Json

/-- What a text can lack to be JSON. -/
inductive Complaint where
  | expectingValue
  | expectingName
  | expectingColon
  | expectingComma
  | extraData
  | unterminatedString
  | controlCharacter
  | badEscape
  | badUnicodeEscape
  | byteOrderMark
deriving DecidableEq, Repr

/-- The wording of a complaint. -/
def Complaint.message : Complaint → Text
  | .expectingValue => "Expecting value"
  | .expectingName => "Expecting property name enclosed in double quotes"
  | .expectingColon => "Expecting ':' delimiter"
  | .expectingComma => "Expecting ',' delimiter"
  | .extraData => "Extra data"
  | .unterminatedString => "Unterminated string starting at"
  | .controlCharacter => "Invalid control character at"
  | .badEscape => "Invalid \\escape"
  | .badUnicodeEscape => "Invalid \\uXXXX escape"
  | .byteOrderMark => "Unexpected UTF-8 BOM (decode using utf-8-sig)"

/-- Why a text was not read. -/
inductive Fault where
  /-- The text is no JSON, noticed at a code point offset on a line and column counted from one. -/
  | malformed (complaint : Complaint) (line column offset : Nat)
  /-- A whole number has too many digits. -/
  | tooManyDigits (digits : Nat)
  /-- Lists or objects nest too deeply; the flag tells an object from a list. -/
  | tooDeep (object : Bool)
deriving DecidableEq, Repr

/-- How far a reader goes. -/
structure Bounds where
  /-- How many digits a whole number may have, if there is a bound. -/
  digits : Option Nat := some Text.digitLimit
  /-- How deep lists and objects may nest. -/
  nesting : Nat := 990
deriving DecidableEq, Repr

/-- The wording of a fault. -/
def Fault.message : Fault → Text
  | .malformed complaint line column offset =>
    complaint.message ++ ": line " ++ Text.ofNat line ++ " column " ++ Text.ofNat column ++
      " (char " ++ Text.ofNat offset ++ ")"
  | .tooManyDigits digits =>
    "Exceeds the limit (" ++ Text.ofNat Text.digitLimit ++
      " digits) for integer string conversion: value has " ++ Text.ofNat digits ++
      " digits; use sys.set_int_max_str_digits() to increase the limit"
  | .tooDeep object =>
    "maximum recursion depth exceeded while decoding a JSON " ++
      (if object then "object" else "array") ++ " from a unicode string"

namespace Reader

/-- A fault in the middle of reading: a complaint about the rest of the text, or a limit. -/
inductive Stop where
  | complaint (c : Complaint) (rest : Text)
  | tooManyDigits (digits : Nat)
  | tooDeep (object : Bool)

/-- What was read and what is left. -/
abbrev Result (α : Type) := Except Stop (α × Text)

/-- The four blanks that may stand between the parts of a value. -/
def isGap (c : CodePoint) : Bool := c = ' ' || c = '\t' || c = '\n' || c = '\r'

/-- Skip blanks. -/
def skip (t : Text) : Text := t.dropWhile isGap

/-! ## Strings -/

/-- The value of four hex digits at the front. -/
def hex4? : Text → Option (Nat × Text)
  | a :: b :: c :: d :: rest => do
    let a ← hexValue? a
    let b ← hexValue? b
    let c ← hexValue? c
    let d ← hexValue? d
    some (((a * 16 + b) * 16 + c) * 16 + d, rest)
  | _ => none

/-- The code point of a two-part escape. -/
def joinPair (high low : Nat) : CodePoint :=
  .ofValue (0x10000 + (high - 0xD800) * 0x400 + (low - 0xDC00))

/-- An escape of four hex digits, the digits standing at the front of `rest` and the letter that
announces them at the front of `letter`. A second escape that completes a surrogate pair is taken
with it. Something has to follow the digits. -/
def unicodeEscape (letter rest : Text) : Result CodePoint :=
  match hex4? rest with
  | none => .error (.complaint .badUnicodeEscape letter)
  | some (_, []) => .error (.complaint .badUnicodeEscape letter)
  | some (n, after) =>
    let alone : Result CodePoint := .ok (.ofValue n, after)
    if 0xD800 ≤ n && n < 0xDC00 then
      match after with
      | .scalar '\\' :: .scalar 'u' :: more =>
        -- A second escape is looked at only when something follows its digits.
        if more.length ≤ 4 then alone
        else
          match hex4? more with
          | none => .error (.complaint .badUnicodeEscape (.scalar 'u' :: more))
          | some (m, after') =>
            if 0xDC00 ≤ m && m < 0xE000 then .ok (joinPair n m, after') else alone
      | _ => alone
    else alone

/-- The code point of a one-letter escape. -/
def simpleEscape? (c : CodePoint) : Option CodePoint :=
  if c = '"' || c = '\\' || c = '/' then some c
  else if c = 'b' then some '\x08'
  else if c = 'f' then some '\x0c'
  else if c = 'n' then some '\n'
  else if c = 'r' then some '\r'
  else if c = 't' then some '\t'
  else none

/-- The rest of a string, `opening` being the text from its opening quote on and `done` the
reversed start. -/
def stringFrom (opening : Text) : (fuel : Nat) → (done rest : Text) → Result Text
  | 0, _, _ => .error (.complaint .unterminatedString opening)
  | fuel + 1, done, rest =>
    match rest with
    | [] => .error (.complaint .unterminatedString opening)
    | .scalar '"' :: after => .ok (done.reverse, after)
    | .scalar '\\' :: after =>
      match after with
      | [] => .error (.complaint .unterminatedString opening)
      | .scalar 'u' :: digits =>
        match unicodeEscape after digits with
        | .error stop => .error stop
        | .ok (c, left) => stringFrom opening fuel (c :: done) left
      | c :: left =>
        match simpleEscape? c with
        | some d => stringFrom opening fuel (d :: done) left
        | none => .error (.complaint .badEscape rest)
    | c :: after =>
      if c.value < 0x20 then .error (.complaint .controlCharacter rest)
      else stringFrom opening fuel (c :: done) after

/-- A string, the text starting right after its opening quote. -/
def string (after : Text) : Result Text :=
  stringFrom (.scalar '"' :: after) (after.length + 1) [] after

/-! ## Numbers -/

/-- Is this one of the ten plain digits? -/
def isDigit (c : CodePoint) : Bool := c.between 0x30 0x39

/-- The number that plain digits spell. -/
def digitsValue (digits : Text) : Nat :=
  digits.foldl (fun n c => 10 * n + (c.value - 0x30)) 0

/-- The digits before the point: a single zero, or digits that do not start with zero. -/
def wholePart (t : Text) : Text × Text :=
  match t with
  | .scalar '0' :: rest => ([.scalar '0'], rest)
  | _ => t.span isDigit

/-- A point and at least one digit; without digits the number has already ended. -/
def fractionPart (t : Text) : Text × Text :=
  match t with
  | .scalar '.' :: rest =>
    let (digits, after) := rest.span isDigit
    if digits.isEmpty then ([], t) else (digits, after)
  | _ => ([], t)

/-- The exponent after an `e` in either case, if it has digits. -/
def exponentPart (t : Text) : Option Int × Text :=
  match t with
  | .scalar 'e' :: rest | .scalar 'E' :: rest =>
    let (negative, rest) : Bool × Text :=
      match rest with
      | .scalar '-' :: rest => (true, rest)
      | .scalar '+' :: rest => (false, rest)
      | _ => (false, rest)
    let (digits, after) := rest.span isDigit
    if digits.isEmpty then (none, t)
    else
      let n : Int := digitsValue digits
      (some (if negative then -n else n), after)
  | _ => (none, t)

/-- A number at the front of the text; a whole number may be limited in its digits. -/
def number (limit : Option Nat) (t : Text) : Result Value :=
  let (negative, body) : Bool × Text :=
    match t with
    | .scalar '-' :: rest => (true, rest)
    | _ => (false, t)
  let (whole, rest) := wholePart body
  if whole.isEmpty then .error (.complaint .expectingValue t)
  else
    let (fraction, rest) := fractionPart rest
    let (exponent, rest) := exponentPart rest
    if fraction.isEmpty && exponent.isNone then
      if limit.any (· < whole.length) then .error (.tooManyDigits whole.length)
      else
        let n : Int := digitsValue whole
        .ok (.int (if negative then -n else n), rest)
    else
      let tens : Int := exponent.getD 0 - fraction.length
      .ok (.float (.ofDecimal negative (digitsValue (whole ++ fraction)) tens), rest)

/-! ## Values -/

/-- A word at the front of the text, and what follows it. -/
def word? (word : Text) (t : Text) : Option Text :=
  if word.isPrefixOf t then some (t.drop word.length) else none

/-- A value that holds no others. -/
def scalar (limit : Option Nat) (t : Text) : Result Value :=
  match t with
  | .scalar '"' :: after => (string after).map fun (s, rest) => (.str s, rest)
  | _ =>
    match word? "null" t, word? "true" t, word? "false" t, word? "NaN" t, word? "Infinity" t,
        word? "-Infinity" t with
    | some rest, _, _, _, _, _ => .ok (.null, rest)
    | _, some rest, _, _, _, _ => .ok (.bool true, rest)
    | _, _, some rest, _, _, _ => .ok (.bool false, rest)
    | _, _, _, some rest, _, _ => .ok (.float .nan, rest)
    | _, _, _, _, some rest, _ => .ok (.float (.infinite false), rest)
    | _, _, _, _, _, some rest => .ok (.float (.infinite true), rest)
    | _, _, _, _, _, _ => number limit t

/-- The items of a list after the blanks that may come first, up to its closing bracket. -/
def items (item : Text → Result Value) : (fuel : Nat) → (done : List Value) → Text →
    Result (List Value)
  | 0, _, t => .error (.complaint .expectingValue t)
  | fuel + 1, done, t =>
    match item t with
    | .error stop => .error stop
    | .ok (v, rest) =>
      match skip rest with
      | .scalar ']' :: after => .ok ((v :: done).reverse, after)
      | .scalar ',' :: after => items item fuel (v :: done) (skip after)
      | rest => .error (.complaint .expectingComma rest)

/-- The members of an object after the blanks that may come first, up to its closing brace. -/
def members (item : Text → Result Value) : (fuel : Nat) → (done : List (Text × Value)) → Text →
    Result (List (Text × Value))
  | 0, _, t => .error (.complaint .expectingName t)
  | fuel + 1, done, t =>
    match t with
    | .scalar '"' :: after =>
      match string after with
      | .error stop => .error stop
      | .ok (key, rest) =>
        match skip rest with
        | .scalar ':' :: after =>
          match item (skip after) with
          | .error stop => .error stop
          | .ok (v, rest) =>
            match skip rest with
            | .scalar '}' :: after => .ok (((key, v) :: done).reverse, after)
            | .scalar ',' :: after => members item fuel ((key, v) :: done) (skip after)
            | rest => .error (.complaint .expectingComma rest)
        | rest => .error (.complaint .expectingColon rest)
    | _ => .error (.complaint .expectingName t)

/-- A value at the front of the text, nested at most `depth` deep. -/
def value (limit : Option Nat) : (depth : Nat) → Text → Result Value
  | 0, t =>
    match t with
    | .scalar '[' :: _ => .error (.tooDeep false)
    | .scalar '{' :: _ => .error (.tooDeep true)
    | _ => scalar limit t
  | depth + 1, t =>
    match t with
    | .scalar '[' :: after =>
      match skip after with
      | .scalar ']' :: rest => .ok (.arr [], rest)
      | rest =>
        (items (value limit depth) (rest.length + 1) [] rest).map fun (vs, left) => (.arr vs, left)
    | .scalar '{' :: after =>
      match skip after with
      | .scalar '}' :: rest => .ok (.obj [], rest)
      | rest =>
        (members (value limit depth) (rest.length + 1) [] rest).map fun (ms, left) =>
          (.obj (Members.ofList ms), left)
    | _ => scalar limit t

end Reader

/-- Where a fault lies, given the whole text and the rest at which it was noticed. -/
def Fault.locate (whole : Text) : Reader.Stop → Fault
  | .tooManyDigits digits => .tooManyDigits digits
  | .tooDeep object => .tooDeep object
  | .complaint c rest =>
    let offset := whole.length - rest.length
    let before := whole.take offset
    let column := (before.reverse.takeWhile (· ≠ .scalar '\n')).length + 1
    .malformed c (before.count (.scalar '\n') + 1) column offset

/-- The value a text spells. -/
def parse (bounds : Bounds) (t : Text) : Except Fault Value :=
  match t with
  | .scalar '\ufeff' :: _ => .error (.malformed .byteOrderMark 1 1 0)
  | _ =>
    match Reader.value bounds.digits bounds.nesting (Reader.skip t) with
    | .error stop => .error (Fault.locate t stop)
    | .ok (v, rest) =>
      match Reader.skip rest with
      | [] => .ok v
      | rest => .error (Fault.locate t (.complaint .extraData rest))

end DelegateAudit.Json

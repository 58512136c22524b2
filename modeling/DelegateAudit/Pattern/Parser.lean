import DelegateAudit.Pattern.Syntax
import DelegateAudit.Bytes

/-!
# DelegateAudit — reading patterns

The written form of patterns: characters, `.`, sets in brackets, `^` and `$`, groups with or
without a name, comments, `|`, repetitions with `*`, `+`, `?` and braces, and escapes with a
backslash. A repetition is lazy with `?` after it and possessive with `+`. A brace that opens no
proper repetition stands for itself. `(?i)` in front makes letter case of no account.

The written form has more than this reader knows: conditions on what comes before or after a
place, groups that are not gone back to, groups that depend on another, references to what a
group matched, flags other than `(?i)`, and characters by their names. Such a pattern may be in
order; the reader says that it does not know the construct (`Breakdown.unsupported`), and not
that the pattern is malformed. It stops there, so a mistake further on goes unnoticed.

A fault keeps the rest of the pattern at which it was noticed, so `parse` can give its
position. A backslash with nothing after it is noticed as soon as it is the next thing
to read, before anything is said about what comes just before it.

The groups read so far are kept in a `State`. Groups nest at most `nestingLimit` deep, which
bounds the recursion; bars and repetitions inside of groups count for nothing there.
-/

namespace DelegateAudit.Pattern

/-- What can be wrong with a written pattern. -/
inductive Complaint where
  | unterminatedGroup
  | unterminatedSet
  | nothingToRepeat
  | multipleRepeat
  | unbalancedParenthesis
  | emptyRepeat
  | danglingEscape
  | badEscape (escape : Text)
  | incompleteEscape (escape : Text)
  | octalTooLarge (escape : Text)
  | badReference (number : Nat)
  | badRange (first last : Text)
  | unknownExtension (extension : Text)
  | unexpectedEnd
  | lateFlags
  | missingName
  | unterminatedName (closing : CodePoint)
  | badName (name : Text)
  | unknownName (name : Text)
  /-- A second group of a name, with its number and that of the first. -/
  | repeatedName (name : Text) (number before : Nat)
  /-- A group is referred to from inside. -/
  | openReference
  | unterminatedComment
  | missingBrace
deriving DecidableEq, Repr

/-- The wording of a complaint. -/
def Complaint.message : Complaint → Text
  | .unterminatedGroup => "missing ), unterminated subpattern"
  | .unterminatedSet => "unterminated character set"
  | .nothingToRepeat => "nothing to repeat"
  | .multipleRepeat => "multiple repeat"
  | .unbalancedParenthesis => "unbalanced parenthesis"
  | .emptyRepeat => "min repeat greater than max repeat"
  | .danglingEscape => "bad escape (end of pattern)"
  | .badEscape escape => "bad escape " ++ escape
  | .incompleteEscape escape => "incomplete escape " ++ escape
  | .octalTooLarge escape => "octal escape value " ++ escape ++ " outside of range 0-0o377"
  | .badReference number => "invalid group reference " ++ Text.ofNat number
  | .badRange first last => "bad character range " ++ first ++ "-" ++ last
  | .unknownExtension extension => "unknown extension ?" ++ extension
  | .unexpectedEnd => "unexpected end of pattern"
  | .lateFlags => "global flags not at the start of the expression"
  | .missingName => "missing group name"
  | .unterminatedName closing => "missing " ++ [closing] ++ ", unterminated name"
  | .badName name => "bad character in group name " ++ name.quoted
  | .unknownName name => "unknown group name " ++ name.quoted
  | .repeatedName name number before =>
    "redefinition of group name " ++ name.quoted ++ " as group " ++ Text.ofNat number ++
      "; was group " ++ Text.ofNat before
  | .openReference => "cannot refer to an open group"
  | .unterminatedComment => "missing ), unterminated comment"
  | .missingBrace => "missing \x7b"

/-- Why a text is no pattern. -/
inductive Refusal where
  /-- Something is wrong at a position; line and column are told for patterns of several lines. -/
  | malformed (complaint : Complaint) (position : Nat) (place : Option (Nat × Nat))
  /-- An engine gave a reason of its own. -/
  | other (reason : Text)
deriving DecidableEq, Repr

/-- The wording of a refusal. -/
def Refusal.message : Refusal → Text
  | .malformed complaint position place =>
    complaint.message ++ " at position " ++ Text.ofNat position ++
      (match place with
      | none => ([] : Text)
      | some (line, column) =>
        " (line " ++ Text.ofNat line ++ ", column " ++ Text.ofNat column ++ ")")
  | .other reason => reason

/-- Why reading a pattern broke down, whether or not the pattern is in order. -/
inductive Breakdown where
  /-- A repetition count is beyond all bounds. -/
  | countTooLarge
  /-- A repetition count has too many digits. -/
  | tooManyDigits (digits : Nat)
  /-- The number of a character is beyond all bounds. -/
  | numberTooLarge
  /-- Flags contradict each other. -/
  | clashingFlags
  /-- Groups nest too deeply. -/
  | tooDeep
  /-- The pattern has something in it that the reader does not know. -/
  | unsupported (construct : Text)
deriving DecidableEq, Repr

/-- The wording of a breakdown. -/
def Breakdown.message : Breakdown → Text
  | .countTooLarge => "the repetition number is too large"
  | .tooManyDigits digits =>
    "Exceeds the limit (" ++ Text.ofNat Text.digitLimit ++
      " digits) for integer string conversion: value has " ++ Text.ofNat digits ++
      " digits; use sys.set_int_max_str_digits() to increase the limit"
  | .numberTooLarge => "Python int too large to convert to C int"
  | .clashingFlags => "ASCII and UNICODE flags are incompatible"
  | .tooDeep => "maximum recursion depth exceeded while calling a Python object"
  | .unsupported construct => "unsupported in a pattern: " ++ construct

/-- Why a pattern was not read. -/
inductive Fault where
  | refusal (cause : Refusal)
  | breakdown (cause : Breakdown)
deriving DecidableEq, Repr

/-- Repetition counts from this one on are refused. -/
def countLimit : Nat := 4294967295

/-- Characters with numbers from this one on cannot even be asked for. -/
def numberLimit : Nat := 0x80000000

/-- The deepest nesting of groups. -/
def nestingLimit : Nat := 492

namespace Parser

/-- A fault in the middle of reading: a complaint, and how many characters before the given rest it
points to. -/
inductive Stop where
  | complaint (c : Complaint) (back : Nat) (rest : Text)
  | breakdown (cause : Breakdown)

/-- The reader does not know a construct. -/
def unknown {α : Type} (construct : Text) : Except Stop α :=
  .error (.breakdown (.unsupported construct))

/-- What has been read of a pattern so far. -/
structure State where
  /-- How many groups with a number there are. -/
  groups : Nat := 0
  /-- The names of groups, with their numbers. -/
  names : List (Text × Nat) := []
  /-- The groups that are not closed. -/
  opened : List Nat := []
  /-- Is letter case of no account? -/
  caseless : Bool := false

/-- Go on with the rest of a pattern, unless it is a backslash with nothing after it. -/
def proceed (rest : Text) : Except Stop Text :=
  match rest with
  | [.scalar '\\'] => .error (.complaint .danglingEscape 0 rest)
  | _ => .ok rest

/-- The next item of the written form: a character, or a backslash with the character after it. -/
def token : Text → Option (Text × Text)
  | [] => none
  | .scalar '\\' :: c :: rest => some ([.scalar '\\', c], rest)
  | c :: rest => some ([c], rest)

/-- Take an item that has to be there, then go on. -/
def accept (c : CodePoint) (t : Text) : Except Stop (Option Text) :=
  match t with
  | d :: rest => if d = c then (proceed rest).map some else .ok none
  | [] => .ok none

/-- Take any item, then go on. -/
def next (t : Text) : Except Stop (Text × Text) :=
  match token t with
  | none => .error (.complaint .unexpectedEnd 0 t)
  | some (item, rest) => (proceed rest).map fun rest => (item, rest)

/-- The items up to a closing one, and what follows that; without it there is nothing more. -/
def upTo (closing : CodePoint) : (fuel : Nat) → (done : Text) → Text →
    Except Stop (Text × Option Text)
  | 0, done, _ => .ok (done, none)
  | fuel + 1, done, t =>
    match token t with
    | none => .ok (done, none)
    | some (item, rest) => do
      let rest ← proceed rest
      if item = [closing] then .ok (done, some rest) else upTo closing fuel (done ++ item) rest

/-! ## Escapes -/

/-- Up to `count` hex digits at the front. -/
def hexDigits : (count : Nat) → Text → Text × Text
  | count + 1, c :: rest =>
    if (hexValue? c).isSome then
      let (digits, after) := hexDigits count rest
      (c :: digits, after)
    else ([], c :: rest)
  | _, t => ([], t)

/-- The number that hex digits spell. -/
def hexNumber (digits : Text) : Nat :=
  digits.foldl (fun n c => 16 * n + (hexValue? c).getD 0) 0

/-- An escape with a fixed count of hex digits after its letter. -/
def hexEscape (letter : CodePoint) (count : Nat) (rest : Text) :
    Except Stop (CodePoint × Text) := do
  let (digits, after) := hexDigits count rest
  let after ← proceed after
  let written := .scalar '\\' :: letter :: digits
  if digits.length ≠ count then
    throw (.complaint (.incompleteEscape written) written.length after)
  if numberLimit ≤ hexNumber digits then throw (.breakdown .numberTooLarge)
  if 0x110000 ≤ hexNumber digits then
    throw (.complaint (.badEscape written) written.length after)
  return (.ofValue (hexNumber digits), after)

/-- Is this a digit of an octal number? -/
def isOctal (c : CodePoint) : Bool := c.between 0x30 0x37

/-- Is this one of the ten plain digits? -/
def isPlainDigit (c : CodePoint) : Bool := c.between 0x30 0x39

/-- The number that plain digits spell in a base. -/
def plainNumber (base : Nat) (digits : Text) : Nat :=
  digits.foldl (fun n c => base * n + (c.value - 0x30)) 0

/-- The character with an octal number of at most three digits, the first one already taken. -/
def octalEscape (c : CodePoint) (rest : Text) : Except Stop (CodePoint × Text) := do
  let digits := c :: (rest.take 2).takeWhile isOctal
  let after ← proceed (rest.drop (digits.length - 1))
  let number := plainNumber 8 digits
  if 0xFF < number then
    throw (.complaint (.octalTooLarge (.scalar '\\' :: digits)) (digits.length + 1) after)
  return (.ofValue number, after)

/-- What refers to a group stands for what the group matched, so it has to be closed; `written` is
how long the reference is. -/
def reference {α : Type} (state : State) (number written : Nat) (rest : Text) : Except Stop α :=
  if state.opened.elem number then .error (.complaint .openReference written rest)
  else unknown "back-reference"

/-- The character with an octal number of three digits that does not start with zero, the first
digit already taken. Fewer digits refer to a group. -/
def digitEscape (state : State) (c : CodePoint) (rest : Text) : Except Stop (CodePoint × Text) := do
  let second := (rest.take 1).takeWhile isPlainDigit
  let after ← proceed (rest.drop second.length)
  if second.length = 1 && ((c :: rest.take 2).takeWhile isOctal).length = 3 then octalEscape c rest
  else
    let digits := c :: second
    let number := plainNumber 10 digits
    if number ≤ state.groups then reference state number (digits.length + 1) after
    else throw (.complaint (.badReference number) digits.length after)

/-- The class that a letter after a backslash stands for. -/
def categoryEscape? (c : CodePoint) : Option (Category × Bool) :=
  if c = 'd' then some (.digit, false)
  else if c = 'D' then some (.digit, true)
  else if c = 's' then some (.blank, false)
  else if c = 'S' then some (.blank, true)
  else if c = 'w' then some (.word, false)
  else if c = 'W' then some (.word, true)
  else none

/-- The place that a letter after a backslash stands for. -/
def anchorEscape? (c : CodePoint) : Option Anchor :=
  if c = 'A' then some .start
  else if c = 'Z' then some .finish
  else if c = 'b' then some .boundary
  else if c = 'B' then some .inside
  else none

/-- The control character that a letter after a backslash stands for. -/
def controlEscape? (c : CodePoint) : Option CodePoint :=
  if c = 'a' then some '\x07'
  else if c = 'f' then some '\x0c'
  else if c = 'n' then some '\n'
  else if c = 'r' then some '\r'
  else if c = 't' then some '\t'
  else if c = 'v' then some '\x0b'
  else none

/-- Is this an ASCII letter? -/
def isLetter (c : CodePoint) : Bool := c.between 0x41 0x5A || c.between 0x61 0x7A

/-- The character an escape stands for, in a set or outside of one. -/
def characterEscape (c : CodePoint) (rest : Text) : Except Stop (CodePoint × Text) :=
  match controlEscape? c with
  | some d => .ok (d, rest)
  | none =>
    if c = 'x' then hexEscape c 2 rest
    else if c = 'u' then hexEscape c 4 rest
    else if c = 'U' then hexEscape c 8 rest
    else if c = 'N' then
      if rest.head? = some (.scalar '{') then unknown "character by its name"
      else .error (.complaint .missingBrace 0 rest)
    else if isLetter c || c.between 0x30 0x39 then
      .error (.complaint (.badEscape [.scalar '\\', c]) 2 rest)
    else .ok (c, rest)

/-- The pattern of an escape outside of a set. -/
def escape (state : State) (c : CodePoint) (rest : Text) : Except Stop (Pattern × Text) :=
  match categoryEscape? c, anchorEscape? c with
  | some (kind, negated), _ => .ok (ofCategory kind negated, rest)
  | _, some place => .ok (.anchor place, rest)
  | none, none =>
    let found :=
      if c = '0' then octalEscape c rest
      else if isPlainDigit c then digitEscape state c rest
      else characterEscape c rest
    found.map fun (d, rest) => (char d, rest)

/-! ## Character sets -/

/-- An entry of a set that starts with the given item. -/
def setItem (item rest : Text) : Except Stop (SetItem × Text) :=
  match item with
  | [.scalar '\\', c] =>
    match categoryEscape? c with
    | some (kind, negated) => .ok (.category kind negated, rest)
    | none =>
      if c = 'b' then .ok (.single (.scalar '\x08'), rest)
      else
        let found := if isOctal c then octalEscape c rest else characterEscape c rest
        found.map fun (d, rest) => (.single d, rest)
  | c :: _ => .ok (.single c, rest)
  | [] => .ok (.single (.scalar '\\'), rest)

/-- The range between two entries written with a hyphen between them. -/
def rangeOf (first last : Text) (a b : SetItem) (rest : Text) : Except Stop SetItem :=
  let refuse : Except Stop SetItem :=
    .error (.complaint (.badRange first last) (first.length + 1 + last.length) rest)
  match a, b with
  | .single lo, .single hi => if hi.value < lo.value then refuse else .ok (.range lo.value hi.value)
  | _, _ => refuse

/-- The entries of a set up to its closing bracket, `opening` being the text from the opening one
on. A closing bracket that comes first is an ordinary character. -/
def setItems (opening : Text) : (fuel : Nat) → (done : List SetItem) → Text →
    Except Stop (List SetItem × Text)
  | 0, _, _ => .error (.complaint .unterminatedSet 0 opening)
  | fuel + 1, done, t =>
    match token t with
    | none => .error (.complaint .unterminatedSet 0 opening)
    | some (first, rest) => do
      let rest ← proceed rest
      if first = [.scalar ']'] && !done.isEmpty then .ok (done.reverse, rest)
      else
        let (a, rest) ← setItem first rest
        match ← accept '-' rest with
        | none => setItems opening fuel (a :: done) rest
        | some after =>
          match token after with
          | none => .error (.complaint .unterminatedSet 0 opening)
          | some (last, rest) => do
            let rest ← proceed rest
            if last = [.scalar ']'] then .ok ((.single (.scalar '-') :: a :: done).reverse, rest)
            else
              let (b, rest) ← setItem last rest
              let range ← rangeOf first last a b rest
              setItems opening fuel (range :: done) rest

/-- A set, read from its opening bracket on. -/
def charSet (opening rest : Text) : Except Stop (Pattern × Text) := do
  let (negated, rest) ←
    match ← accept '^' rest with
    | some rest => pure (true, rest)
    | none => pure (false, rest)
  let (items, rest) ← setItems opening (rest.length + 1) [] rest
  .ok (.set ⟨negated, items, false⟩, rest)

/-! ## Repetitions -/

/-- How often something is repeated: at least, and at most if there is a bound. -/
abbrev Count := Nat × Option Nat

/-- The count that plain digits spell, if there are any. -/
def count? (digits : Text) : Except Stop (Option Nat) :=
  if digits.isEmpty then .ok none
  else if Text.digitLimit < digits.length then
    .error (.breakdown (.tooManyDigits digits.length))
  else if countLimit ≤ plainNumber 10 digits then .error (.breakdown .countTooLarge)
  else .ok (some (plainNumber 10 digits))

/-- The counts in braces, after the opening one; nothing if the braces hold no proper counts. -/
def braces (t : Text) : Except Stop (Option (Count × Text)) := do
  if t.head? = some (.scalar '}') then return none
  let (low, rest) := t.span isPlainDigit
  let rest ← proceed rest
  let (high, rest) ←
    match ← accept ',' rest with
    | some rest =>
      let (high, rest) := rest.span isPlainDigit
      pure (high, ← proceed rest)
    | none => pure (low, rest)
  match ← accept '}' rest with
  | none => return none
  | some rest =>
    let least := (← count? low).getD 0
    let most ← count? high
    if most.any (· < least) then throw (.complaint .emptyRepeat 0 t)
    return some ((least, most), rest)

/-- The mark after a repetition that says how it chooses. -/
def choice (t : Text) : Except Stop (Choice × Text) := do
  if let some rest ← accept '?' t then return (.lazy, rest)
  if let some rest ← accept '+' t then return (.possessive, rest)
  return (.eager, t)

/-- Repeat the last of the patterns read so far; `written` is the text from the repetition mark
on. -/
def repeatLast (written : Text) (count : Count) (done : List Pattern) (rest : Text) :
    Except Stop (List Pattern × Text) :=
  match done with
  | [] => .error (.complaint .nothingToRepeat 0 written)
  | .anchor _ :: _ => .error (.complaint .nothingToRepeat 0 written)
  | .times _ _ _ _ :: _ => .error (.complaint .multipleRepeat 0 written)
  | body :: before => do
    let (choice, rest) ← choice rest
    .ok (.times choice body count.1 count.2 :: before, rest)

/-! ## Groups and alternatives -/

/-- Can this text name a group? -/
def isName (t : Text) : Bool :=
  match t with
  | [] => false
  | c :: rest => c.isWord && !c.isDigit && rest.all CodePoint.isWord

/-- The name of a group, up to what closes it. -/
def groupName (closing : CodePoint) (t : Text) : Except Stop (Text × Text) := do
  match ← upTo closing (t.length + 1) [] t with
  | ([], none) => throw (.complaint .missingName 0 [])
  | (name, none) => throw (.complaint (.unterminatedName closing) name.length [])
  | ([], some rest) => throw (.complaint .missingName 1 rest)
  | (name, some rest) =>
    if isName name then return (name, rest)
    else throw (.complaint (.badName name) (name.length + 1) rest)

/-- What a parenthesis opens. -/
inductive Opening where
  /-- A group with a number and maybe a name. -/
  | numbered (name : Option Text)
  | unnumbered
  | comment
  /-- Letter case is of no account. -/
  | caseless

/-- A group with a name, or a reference to one. -/
def named (state : State) (t : Text) : Except Stop (Opening × Text) := do
  let (mark, rest) ← next t
  if mark = [.scalar '<'] then
    let (name, rest) ← groupName '>' rest
    return (.numbered (some name), rest)
  else if mark = [.scalar '='] then
    let (name, rest) ← groupName ')' rest
    match state.names.lookup name with
    | none => throw (.complaint (.unknownName name) (name.length + 1) rest)
    | some number => reference state number (name.length + 1) rest
  else throw (.complaint (.unknownExtension (.scalar 'P' :: mark)) (2 + mark.length) rest)

/-- A condition on what comes before a place, which is the only thing a plain angle can open. -/
def behind (t : Text) : Except Stop (Opening × Text) := do
  let (mark, rest) ← next t
  if mark = [.scalar '='] || mark = [.scalar '!'] then unknown "look-behind"
  else throw (.complaint (.unknownExtension (.scalar '<' :: mark)) (2 + mark.length) rest)

/-- The marks that start flags. -/
def flagMarks : Text := "iLmsxatu-"

/-- What follows an opening parenthesis, up to the contents of a group or the end of what is none;
`opening` is the text from the parenthesis on. -/
def groupStart (state : State) (opening rest : Text) : Except Stop (Opening × Text) := do
  match ← accept '?' rest with
  | none => return (.numbered none, rest)
  | some after =>
    let (mark, rest) ← next after
    match mark with
    | [.scalar ':'] => return (.unnumbered, rest)
    | [.scalar 'P'] => named state rest
    | [.scalar '<'] => behind rest
    | [.scalar '='] | [.scalar '!'] => unknown "look-ahead"
    | [.scalar '('] => unknown "conditional group"
    | [.scalar '>'] => unknown "atomic group"
    | [.scalar '#'] =>
      match ← upTo ')' (rest.length + 1) [] rest with
      | (_, none) => throw (.complaint .unterminatedComment 0 opening)
      | (_, some rest) => return (.comment, rest)
    | _ =>
      if mark = [.scalar 'i'] && rest.head? = some (.scalar ')') then
        return (.caseless, ← proceed rest.tail)
      else if mark.all flagMarks.elem then unknown "flags"
      else throw (.complaint (.unknownExtension mark) (1 + mark.length) rest)

/-- A pattern that was read, what is known then, and what is left. -/
abbrev Result := Except Stop (Pattern × State × Text)

/-- Open a group with the next number and maybe a name, with `rest` following the name. -/
def State.open (state : State) (name : Option Text) (rest : Text) : Except Stop State :=
  let number := state.groups + 1
  let state := { state with groups := number, opened := number :: state.opened }
  match name with
  | none => .ok state
  | some name =>
    match state.names.lookup name with
    | none => .ok { state with names := (name, number) :: state.names }
    | some before =>
      .error (.complaint (.repeatedName name number before) (name.length + 1) rest)

/-- Close the group that was opened last. -/
def State.close (state : State) : State := { state with opened := state.opened.tail }

/-- The contents of a group and its closing parenthesis. -/
def closed (contents : State → Text → Result) (state : State) (opening rest : Text) : Result := do
  let (p, state, rest) ← contents state rest
  match ← accept ')' rest with
  | none => throw (.complaint .unterminatedGroup 0 opening)
  | some rest => return (.group p, state, rest)

/-- What stands in parentheses, from after the opening one on. A comment is no pattern, nor is a
flag, which has to stand in front of everything. -/
def group (contents : State → Text → Result) (isFront : Bool) (state : State)
    (opening rest : Text) : Except Stop (Option Pattern × State × Text) := do
  match ← groupStart state opening rest with
  | (.comment, rest) => return (none, state, rest)
  | (.caseless, rest) =>
    if isFront then return (none, { state with caseless := true }, rest)
    else throw (.complaint .lateFlags 0 opening)
  | (.unnumbered, rest) =>
    let (p, state, rest) ← closed contents state opening rest
    return (some p, state, rest)
  | (.numbered name, rest) =>
    let (p, state, rest) ← closed contents (← state.open name rest) opening rest
    return (some p, state.close, rest)

/-- One alternative up to `|`, `)` or the end, the patterns read so far in reverse; `contents` reads
those of a group. -/
def alternative (contents : State → Text → Result) (isFirst : Bool) :
    (fuel : Nat) → (done : List Pattern) → State → Text → Result
  | 0, done, state, t => .ok (sequence done.reverse, state, t)
  | fuel + 1, done, state, t =>
    match token t with
    | none => .ok (sequence done.reverse, state, t)
    | some (item, rest) =>
      if item = [.scalar '|'] || item = [.scalar ')'] then .ok (sequence done.reverse, state, t)
      else do
        let rest ← proceed rest
        let plain (p : Pattern) (rest : Text) :=
          alternative contents isFirst fuel (p :: done) state rest
        let again (count : Count) (rest : Text) := do
          let (done, rest) ← repeatLast t count done rest
          alternative contents isFirst fuel done state rest
        match item with
        | [.scalar '\\', c] => do
          let (p, rest) ← escape state c rest
          plain p rest
        | [.scalar '['] => do
          let (p, rest) ← charSet t rest
          plain p rest
        | [.scalar '('] => do
          let (p, state, rest) ← group contents (isFirst && done.isEmpty) state t rest
          alternative contents isFirst fuel (p.toList ++ done) state rest
        | [.scalar '^'] => plain (.anchor .start) rest
        | [.scalar '$'] => plain (.anchor .lineEnd) rest
        | [.scalar '.'] => plain any rest
        | [.scalar '*'] => again (0, none) rest
        | [.scalar '+'] => again (1, none) rest
        | [.scalar '?'] => again (0, some 1) rest
        | [.scalar '{'] => do
          match ← braces rest with
          | none => plain (char '{') rest
          | some (count, rest) => again count rest
        | c :: _ => plain (char c) rest
        | [] => .ok (sequence done.reverse, state, t)

/-- Alternatives separated by bars. -/
def alternatives (contents : State → Text → Result) :
    (fuel : Nat) → (isFirst : Bool) → State → Text → Result
  | 0, _, state, t => .ok (.empty, state, t)
  | fuel + 1, isFirst, state, t => do
    let (p, state, rest) ← alternative contents isFirst (t.length + 1) [] state t
    match ← accept '|' rest with
    | none => .ok (p, state, rest)
    | some rest => do
      let (q, state, rest) ← alternatives contents fuel false state rest
      .ok (.alt p q, state, rest)

/-- What stands in a group inside of which groups nest less than `depth` deep. -/
def contents : (depth : Nat) → State → Text → Result
  | 0, _, _ => .error (.breakdown .tooDeep)
  | depth + 1, state, t => alternatives (contents depth) (t.length + 1) false state t

/-- A whole pattern. -/
def whole (t : Text) : Except Stop Pattern := do
  let t ← proceed t
  let (p, state, rest) ← alternatives (contents nestingLimit) (t.length + 1) true {} t
  if rest.isEmpty then .ok (if state.caseless then p.ignoringCase else p)
  else .error (.complaint .unbalancedParenthesis 0 rest)

end Parser

/-- The place of a fault in a pattern. -/
def Fault.locate (whole : Text) : Parser.Stop → Fault
  | .breakdown cause => .breakdown cause
  | .complaint c back rest =>
    let position := whole.length - rest.length - back
    let before := whole.take position
    let column := (before.reverse.takeWhile (· ≠ .scalar '\n')).length + 1
    .refusal <| .malformed c position
      (if whole.elem (.scalar '\n') then some (before.count (.scalar '\n') + 1, column) else none)

/-- The pattern a text describes. -/
def parse (t : Text) : Except Fault Pattern :=
  (Parser.whole t).mapError (Fault.locate t)

end DelegateAudit.Pattern

import DelegateAudit.Text.Blank

/-!
# DelegateAudit — files of variables

A file of variables has one variable to a line: a name, an equals sign and a value. Blanks
around both do not count, the word `export` may come first, and a `#` starts a comment. A
value in quotes may go over several lines and has escapes; without quotes a value ends
with its line, or where a blank and a `#` begin a comment. A name alone stands for a
variable without a value. A line that is none of this is left out.

Inside a value, a name in braces after a dollar sign stands for the value of a variable:
of one set further up in the file, else of one in the environment, else for what follows
`:-` after the name, else for nothing.
-/

namespace DelegateAudit.VariableFile

/-- A variable of a file. -/
abbrev Binding := Text × Option Text

/-- Does this character end a line? -/
def endsLine (c : CodePoint) : Bool := c = .scalar '\n' || c = .scalar '\r'

/-- Is this a blank inside a line? -/
def isGap (c : CodePoint) : Bool := c.isBlank && !endsLine c

/-- A text without the blanks at its front, as far as the line goes. -/
def skipGap (t : Text) : Text := t.dropWhile isGap

/-- What follows the end of the current line. -/
def nextLine (t : Text) : Text := (t.dropWhile fun c => !endsLine c).drop 1

/-! ## Values -/

/-- The position of the quote that ends a quoted text: the first one without a backslash before it,
else the last one with. -/
def closing? (quote : CodePoint) : (position : Nat) → (escaped : Bool) → (last : Option Nat) →
    Text → Option Nat
  | _, _, last, [] => last
  | position, escaped, last, c :: rest =>
    if c = quote then
      if escaped then closing? quote (position + 1) false (some position) rest else some position
    else closing? quote (position + 1) (c = .scalar '\\') last rest

/-- A quoted text, after its opening quote, and what follows it. -/
def takeQuoted? (quote : CodePoint) (t : Text) : Option (Text × Text) :=
  (closing? quote 0 false none t).map fun position => (t.take position, t.drop (position + 1))

/-- The character that an escape between single quotes stands for. -/
def singleEscape? (c : CodePoint) : Option CodePoint :=
  if c = .scalar '\\' || c = .scalar '\'' then some c else none

/-- The character that an escape between double quotes stands for. -/
def doubleEscape? : CodePoint → Option CodePoint
  | .scalar 'a' => some (.scalar '\x07')
  | .scalar 'b' => some (.scalar '\x08')
  | .scalar 'f' => some (.scalar '\x0c')
  | .scalar 'n' => some (.scalar '\n')
  | .scalar 'r' => some (.scalar '\r')
  | .scalar 't' => some (.scalar '\t')
  | .scalar 'v' => some (.scalar '\x0b')
  | .scalar '"' => some (.scalar '"')
  | c => singleEscape? c

/-- A text with its escapes resolved; a backslash before anything else stands for itself. -/
def unescape (escape? : CodePoint → Option CodePoint) : Text → Text
  | .scalar '\\' :: c :: rest =>
    match escape? c with
    | some d => d :: unescape escape? rest
    | none => .scalar '\\' :: unescape escape? (c :: rest)
  | c :: rest => c :: unescape escape? rest
  | [] => []
termination_by t => t.length

/-- A text up to the first comment, which has a blank before it. -/
def beforeComment : Text → Text
  | [] => []
  | c :: rest =>
    if c.isBlank && (rest.dropWhile CodePoint.isBlank).head? = some (.scalar '#') then []
    else c :: beforeComment rest

/-- A value after the equals sign, and what follows it. -/
def takeValue? : Text → Option (Text × Text)
  | .scalar '\'' :: t =>
    (takeQuoted? (.scalar '\'') t).map fun (value, rest) => (unescape singleEscape? value, rest)
  | .scalar '"' :: t =>
    (takeQuoted? (.scalar '"') t).map fun (value, rest) => (unescape doubleEscape? value, rest)
  | t =>
    let line := t.takeWhile fun c => !endsLine c
    some ((beforeComment line).stripRight, t.dropWhile fun c => !endsLine c)

/-! ## Lines -/

/-- How reading a line went. -/
inductive Line where
  /-- A line with a variable, or without any, and what follows it. -/
  | read (binding : Option Binding) (rest : Text)
  /-- The line makes no sense from here on. -/
  | bad (rest : Text)

/-- The end of a line, after a comment that may come first. -/
def endLine (binding : Option Binding) (t : Text) : Line :=
  let rest :=
    match skipGap t with
    | .scalar '#' :: comment => comment.dropWhile fun c => !endsLine c
    | _ => t
  match skipGap rest with
  | [] => .read binding []
  | .scalar '\r' :: .scalar '\n' :: after => .read binding after
  | c :: after => if endsLine c then .read binding after else .bad rest

/-- The line of a name: a value if an equals sign follows. -/
def readBinding (name t : Text) : Line :=
  match skipGap t with
  | .scalar '=' :: after =>
    match takeValue? (skipGap after) with
    | some (value, rest) => endLine (some (name, some value)) rest
    | none => .bad (skipGap after)
  | rest => endLine (some (name, none)) rest

/-- May this character be part of a name without quotes? -/
def isNameChar (c : CodePoint) : Bool := !c.isBlank && c ≠ .scalar '=' && c ≠ .scalar '#'

/-- A text without the word `export` and the blanks after it. -/
def skipExport (t : Text) : Text :=
  let rest := t.drop 6
  if ("export" : Text).isPrefixOf t && rest.head?.any isGap then skipGap rest else t

/-- The first line of a text that does not start with a blank. -/
def readLine (t : Text) : Line :=
  let t := skipExport t
  match t with
  | .scalar '#' :: _ => endLine none t
  | .scalar '\'' :: quoted =>
    let name := quoted.takeWhile fun c => c ≠ .scalar '\''
    match quoted.dropWhile fun c => c ≠ .scalar '\'' with
    | _ :: rest => if name.isEmpty then .bad t else readBinding name rest
    | [] => .bad t
  | _ =>
    let name := t.takeWhile isNameChar
    if name.isEmpty then .bad t else readBinding name (t.dropWhile isNameChar)

/-- The variables of a file, in order. -/
def bindingsFrom : (fuel : Nat) → Text → List Binding
  | 0, _ => []
  | fuel + 1, t =>
    match t.dropWhile CodePoint.isBlank with
    | [] => []
    | start =>
      match readLine start with
      | .read binding rest => binding.toList ++ bindingsFrom fuel rest
      | .bad rest => bindingsFrom fuel (nextLine rest)

/-- The variables of a file, in order, values as written. -/
def bindings (t : Text) : List Binding := bindingsFrom (t.length + 1) t

/-! ## References -/

/-- A name in braces, with what to take if there is no such variable, after the opening brace. -/
def takeReference? (t : Text) : Option (Text × Text × Text) :=
  let isName (c : CodePoint) := c ≠ .scalar '\x7d' && c ≠ .scalar ':'
  let name := t.takeWhile isName
  match t.dropWhile isName with
  | .scalar '\x7d' :: rest => some (name, [], rest)
  | .scalar ':' :: .scalar '-' :: rest =>
    match rest.dropWhile fun c => c ≠ .scalar '\x7d' with
    | _ :: after => some (name, rest.takeWhile (fun c => c ≠ .scalar '\x7d'), after)
    | [] => none
  | _ => none

/-- A value with its references resolved. -/
def expand (value? : Text → Option Text) : (fuel : Nat) → Text → Text
  | 0, t => t
  | _, [] => []
  | fuel + 1, c :: rest =>
    match c, rest with
    | .scalar '$', .scalar '\x7b' :: inner =>
      match takeReference? inner with
      | some (name, fallback, after) => (value? name).getD fallback ++ expand value? fuel after
      | none => c :: expand value? fuel rest
    | _, _ => c :: expand value? fuel rest

/-- Set a variable: in place if it is there, at the end if not. -/
def put (name : Text) (value : Option Text) : List Binding → List Binding
  | [] => [(name, value)]
  | (n, old) :: rest => if n = name then (n, value) :: rest else (n, old) :: put name value rest

/-- The value of a variable of the file, else of the environment. A variable of the file without a
value hides that of the environment and is empty. -/
def valueOf? (done : List Binding) (environment : List (Text × Text)) (name : Text) : Option Text :=
  match done.lookup name with
  | some value => some (value.getD [])
  | none => environment.lookup name

/-- Resolve the references of variables, each with those before it. -/
def resolve (environment : List (Text × Text)) (all : List Binding) : List Binding :=
  all.foldl
    (fun done (name, value) =>
      put name (value.map fun t => expand (valueOf? done environment) (t.length + 1) t) done)
    []

/-- The variables of a file, each once, with their values. -/
def read (environment : List (Text × Text)) (t : Text) : List Binding :=
  resolve environment (bindings t)

end DelegateAudit.VariableFile

import DelegateAudit.Text.Digit
import DelegateAudit.Text.Quoted

/-!
# DelegateAudit — options and positionals

The words after a program's name are options and positionals. An option starts with a
hyphen; a long one may be shortened as long as it stays clear which one is meant, and may
have its value after an equals sign. A lone hyphen, negative numbers and words with a
space are positionals, and so is everything after `--`.

All words are sorted first (`Program.sort`), so that an ambiguous option is an error
wherever it stands. After that the words are taken from left to right
(`Program.parse`): the first thing that goes wrong, or the first call for help, ends it.
-/

namespace DelegateAudit.CommandLine

/-- What an option does to the options read so far. -/
inductive Action (σ : Type) where
  /-- Show the help text. -/
  | help
  | set (change : σ → σ)
  /-- Take a value, which may be wrong. A double hyphen is no value and clears the option. -/
  | take (placeholder : Text) (change : Text → σ → Except Text σ) (clear : σ → σ)

/-- Does the option take a value? -/
def Action.takesValue {σ : Type} : Action σ → Bool
  | .take _ _ _ => true
  | _ => false

/-- An option. -/
structure Flag (σ : Type) where
  names : List Text
  action : Action σ
  help : Text

/-- What an option is called in complaints. -/
def Flag.label {σ : Type} (flag : Flag σ) : Text := Text.join "/" flag.names

/-- A positional. One that is not required comes after all that are. -/
structure Positional (σ : Type) where
  name : Text
  required : Bool
  change : Text → σ → σ
  help : Text

/-- A program with its options and positionals. -/
structure Program (σ : Type) where
  name : Text
  /-- The lines that sum up how it is used. -/
  usage : List Text
  description : Text
  positionals : List (Positional σ)
  flags : List (Flag σ)

/-- Why the words were not taken to the end. -/
inductive Stop where
  /-- Help was asked for. -/
  | help
  /-- Something is wrong. -/
  | complaint (text : Text)
deriving DecidableEq, Repr

/-- A complaint about an option. -/
def Flag.complaint {σ : Type} (flag : Flag σ) (text : Text) : Stop :=
  .complaint ("argument " ++ flag.label ++ ": " ++ text)

/-- The complaint about a value that an option does not take. -/
def Flag.noValue {σ : Type} (flag : Flag σ) (value : Text) : Stop :=
  flag.complaint ("ignored explicit argument " ++ value.quoted)

/-! ## Sorting words -/

/-- The double hyphen after which there are no options. -/
def divider : Text := "--"

/-- What a word is. -/
inductive Kind (σ : Type) where
  | positional
  /-- The double hyphen after which there are no options. -/
  | divider
  /-- An option that the program does not have. -/
  | unknown
  /-- An option, the name it was given by, and a value that came with it. -/
  | option (flag : Flag σ) (name : Text) (value : Option Text)

namespace Program

variable {σ : Type}

/-- All names of options, each with its option. -/
def named (p : Program σ) : List (Text × Flag σ) :=
  p.flags.flatMap fun flag => flag.names.map fun name => (name, flag)

/-- The option of a name. -/
def flag? (p : Program σ) (name : Text) : Option (Flag σ) := p.named.lookup name

/-- A word cut at its first equals sign. -/
def cutValue (word : Text) : Text × Option Text :=
  match word.dropWhile fun c => c ≠ .scalar '=' with
  | [] => (word, none)
  | _ :: value => (word.takeWhile (fun c => c ≠ .scalar '='), some value)

/-- Does the word start with two hyphens? -/
def isLong (word : Text) : Bool := ("--" : Text).isPrefixOf word

/-- The options that a word may be short for, with names and values. A single letter may have its
value right after it. -/
def abbreviated (p : Program σ) (word : Text) : List (Text × Flag σ × Option Text) :=
  if isLong word then
    let (start, value) := cutValue word
    (p.named.filter fun entry => start.isPrefixOf entry.1).map fun (name, flag) =>
      (name, flag, value)
  else
    p.named.filterMap fun (name, flag) =>
      if name = word.take 2 then some (name, flag, some (word.drop 2))
      else if word.isPrefixOf name then some (name, flag, none)
      else none

/-- Does the text end here, but for a line feed? -/
def atEnd (t : Text) : Bool := t.isEmpty || t = [.scalar '\n']

/-- Is this a number with a minus sign, whole or with a point? -/
def isNegativeNumber : Text → Bool
  | .scalar '-' :: rest =>
    let whole := rest.takeWhile CodePoint.isDigit
    match rest.dropWhile CodePoint.isDigit with
    | .scalar '.' :: fraction =>
      fraction.head?.any CodePoint.isDigit && atEnd (fraction.dropWhile CodePoint.isDigit)
    | after => !whole.isEmpty && atEnd after
  | _ => false

/-- The complaint about a word that may be short for several options. -/
def ambiguous (word : Text) (names : List Text) : Stop :=
  .complaint ("ambiguous option: " ++ word ++ " could match " ++ Text.join ", " names)

/-- Sort one word that starts with a hyphen and has more than that. -/
def sortHyphened (p : Program σ) (word : Text) : Except Stop (Kind σ) :=
  let (start, value) := cutValue word
  match p.flag? word, value, p.flag? start with
  | some flag, _, _ => .ok (.option flag word none)
  | none, some value, some flag => .ok (.option flag start (some value))
  | _, _, _ =>
    match p.abbreviated word with
    | [(name, flag, value)] => .ok (.option flag name value)
    | [] => .ok (if isNegativeNumber word || word.elem (.scalar ' ') then .positional else .unknown)
    | several => .error (ambiguous word (several.map Prod.fst))

/-- Sort one word. -/
def sortWord (p : Program σ) (word : Text) : Except Stop (Kind σ) :=
  match word with
  | .scalar '-' :: _ :: _ => p.sortHyphened word
  | _ => .ok .positional

/-- Sort all words. -/
def sort (p : Program σ) : List Text → Except Stop (List (Kind σ × Text))
  | [] => .ok []
  | word :: rest =>
    if word = divider then .ok ((.divider, word) :: rest.map fun word => (.positional, word))
    else do
      let kind ← p.sortWord word
      return (kind, word) :: (← p.sort rest)

end Program

/-! ## Taking words -/

/-- How far the words have been taken. -/
structure Progress (σ : Type) where
  options : σ
  /-- The positionals that are still to come. -/
  left : List (Positional σ)
  /-- Words that belong to nothing. -/
  extras : List Text

variable {σ : Type}

/-- Is this word an option? -/
def Kind.isOption : Kind σ → Bool
  | .unknown | .option _ _ _ => true
  | _ => false

/-- Is this word a double hyphen? -/
def Kind.isDivider : Kind σ → Bool
  | .divider => true
  | _ => false

/-- Words without the double hyphens at their front. -/
def skipDividers (words : List (Kind σ × Text)) : List (Kind σ × Text) :=
  words.dropWhile fun word => word.1.isDivider

/-- What a positional gets if its only word is dropped: the empty list of words as it is shown, or
nothing if it may be left out. -/
def Positional.nothing (positional : Positional σ) : Option Text :=
  if positional.required then some "[]" else none

/-- The value of one positional at the front of the words, and the words after it; double hyphens
around it go with it. The first double hyphen of all these words is dropped, even if it is the
value. -/
def takeOne? (positional : Positional σ) (words : List (Kind σ × Text)) :
    Option (Option Text × List (Kind σ × Text)) :=
  match skipDividers words with
  | (.positional, word) :: rest =>
    let dropped := word = divider && !words.head?.any (·.1.isDivider)
    some (if dropped then positional.nothing else some word, skipDividers rest)
  | rest => if positional.required then none else some (none, rest)

/-- Take as many positionals as the words at the front allow. -/
def takePositionals : (left : List (Positional σ)) → (options : σ) → List (Kind σ × Text) →
    List (Positional σ) × σ × List (Kind σ × Text)
  | [], options, words => ([], options, words)
  | positional :: left, options, words =>
    match takeOne? positional words with
    | none => (positional :: left, options, words)
    | some (value, rest) =>
      takePositionals left (value.elim options fun word => positional.change word options) rest

/-- Use an option that needs no value, or that has one. -/
def use (flag : Flag σ) (value : Text) (options : σ) : Except Stop σ :=
  match flag.action with
  | .help => .error .help
  | .set change => .ok (change options)
  | .take _ change clear =>
    if value = divider then .ok (clear options)
    else (change value options).mapError flag.complaint

/-- The options in one word. -/
structure Cluster (σ : Type) where
  /-- Options without values. -/
  first : List (Flag σ)
  last : Flag σ
  /-- A value for the last option. -/
  value : Option Text

/-- The options in a word with something right after a name: the value of the option, or more
single-letter options. -/
def cluster (p : Program σ) (flag : Flag σ) (name : Text) : (value : Text) → Except Stop (Cluster σ)
  | [] => if flag.action.takesValue then .ok ⟨[], flag, some []⟩ else .error (flag.noValue [])
  | c :: rest =>
    if flag.action.takesValue then .ok ⟨[], flag, some (c :: rest)⟩
    else if Program.isLong name then .error (flag.noValue (c :: rest))
    else
      match p.flag? [.scalar '-', c] with
      | none => .error (flag.noValue (c :: rest))
      | some next =>
        if rest.isEmpty then .ok ⟨[flag], next, none⟩
        else
          (cluster p next [.scalar '-', c] rest).map fun found =>
            { found with first := flag :: found.first }

/-- The value of an option, and the words after it. -/
def takeValue (flag : Flag σ) (value : Option Text) (rest : List (Kind σ × Text)) :
    Except Stop (Text × List (Kind σ × Text)) :=
  match value, flag.action.takesValue, rest with
  | some value, _, rest => .ok (value, rest)
  | none, false, rest => .ok ([], rest)
  | none, true, (.positional, word) :: rest => .ok (word, rest)
  | none, true, _ => .error (flag.complaint "expected one argument")

/-- Take the options in the word at the front, and the value of the last one. -/
def takeOption (p : Program σ) (flag : Flag σ) (name : Text) (value : Option Text) (options : σ)
    (rest : List (Kind σ × Text)) : Except Stop (σ × List (Kind σ × Text)) := do
  let found ←
    match value with
    | none => pure ⟨[], flag, none⟩
    | some value => cluster p flag name value
  let (value, rest) ← takeValue found.last found.value rest
  let options ← found.first.foldlM (fun options flag => use flag [] options) options
  return (← use found.last value options, rest)

/-- Take all words. -/
def takeWords (p : Program σ) : (fuel : Nat) → Progress σ → List (Kind σ × Text) →
    Except Stop (Progress σ)
  | 0, progress, _ => .ok progress
  | fuel + 1, progress, words =>
    match words with
    | (.unknown, word) :: rest =>
      takeWords p fuel { progress with extras := progress.extras ++ [word] } rest
    | (.option flag name value, _) :: rest => do
      let (options, rest) ← takeOption p flag name value progress.options rest
      takeWords p fuel { progress with options } rest
    | words =>
      let (left, options, rest) := takePositionals progress.left progress.options words
      if rest.length < words.length && rest.any (·.1.isOption) then
        takeWords p fuel { progress with left, options } rest
      else
        -- Nothing more can be taken up to the next option.
        let extras := rest.takeWhile fun word => !word.1.isOption
        let rest := rest.dropWhile fun word => !word.1.isOption
        let progress := ⟨options, left, progress.extras ++ extras.map Prod.snd⟩
        if rest.isEmpty then .ok progress else takeWords p fuel progress rest

/-- The options that words give, starting from defaults. -/
def Program.parse (p : Program σ) (defaults : σ) (words : List Text) : Except Stop σ := do
  let sorted ← p.sort words
  let progress ← takeWords p (2 * words.length + 1) ⟨defaults, p.positionals, []⟩ sorted
  let missing := progress.left.filter Positional.required
  if !missing.isEmpty then
    throw (.complaint
      ("the following arguments are required: " ++ Text.join ", " (missing.map Positional.name)))
  if !progress.extras.isEmpty then
    throw (.complaint ("unrecognized arguments: " ++ Text.join " " progress.extras))
  return progress.options

end DelegateAudit.CommandLine

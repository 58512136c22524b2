import DelegateAudit.Pattern.Search

/-!
# DelegateAudit — wildcards

File names are matched with wildcards: `*` for any stretch of characters, `?` for one,
brackets for one character of a set. A set starts with an exclamation mark when it names
the characters that do not match, and a closing bracket that comes first is one of its
characters. Two characters with a hyphen between them give all from the first to the
second, and none if they stand the wrong way round. A bracket that is never closed stands
for itself.
-/

namespace DelegateAudit.Glob

/-- Does a name have a wildcard? -/
def isWild (name : Text) : Bool :=
  name.any fun c => c = .scalar '*' || c = .scalar '?' || c = .scalar '['

/-- The pattern of any character at all. -/
def anyChar : Pattern := .set ⟨true, [], false⟩

/-- The characters between brackets. -/
def setItems : Text → List SetItem
  | [] => []
  | a :: .scalar '-' :: b :: rest =>
    if a.value ≤ b.value then .range a.value b.value :: setItems rest else setItems rest
  | a :: rest => .single a :: setItems rest

/-- The text up to a closing bracket, and what follows the bracket; the first `skipped` characters
are taken as they are. -/
def toBracket? : (skipped : Nat) → Text → Option (Text × Text)
  | _, [] => none
  | skipped + 1, c :: rest =>
    (toBracket? skipped rest).map fun (inner, after) => (c :: inner, after)
  | 0, c :: rest =>
    if c = .scalar ']' then some ([], rest)
    else (toBracket? 0 rest).map fun (inner, after) => (c :: inner, after)

/-- A bracketed set, after its opening bracket, and what follows it. -/
def set? (t : Text) : Option (Pattern × Text) :=
  let (negated, body) : Bool × Text :=
    match t with
    | .scalar '!' :: body => (true, body)
    | _ => (false, t)
  let skipped := if body.head? = some (.scalar ']') then 1 else 0
  (toBracket? skipped body).map fun (inner, after) => (.set ⟨negated, setItems inner, false⟩, after)

/-- The pattern of a name with wildcards. -/
def toPattern : (fuel : Nat) → Text → Pattern
  | 0, _ => .anchor .finish
  | _, [] => .anchor .finish
  | fuel + 1, c :: rest =>
    if c = .scalar '*' then .seq (.times .eager anyChar 0 none) (toPattern fuel rest)
    else if c = .scalar '?' then .seq anyChar (toPattern fuel rest)
    else if c = .scalar '[' then
      match set? rest with
      | some (set, after) => .seq set (toPattern fuel after)
      | none => .seq (.char c) (toPattern fuel rest)
    else .seq (.char c) (toPattern fuel rest)

/-- Does a name match a name with wildcards from end to end? -/
def matchesName (wild name : Text) : Bool :=
  !((toPattern (wild.length + 1) wild).ends (Cursor.atStart name)).isEmpty

end DelegateAudit.Glob

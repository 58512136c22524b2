import DelegateAudit.Pattern.Syntax

/-!
# DelegateAudit — searching a line

`Pattern.ends` gives every place where a match that starts at a given place can end,
in order and without repetition, so the work stays polynomial however a pattern
repeats itself. A place (`Cursor`) knows the character before it and the text after
it, which is all that anchors look at.

A repetition without a bound is followed place by place: the earliest place not yet
seen is taken, and the ends of one more stretch from there join those still waiting.
Stretches that do not advance add nothing, and a row of more stretches than there are
characters left has one that does not advance, so longer rows need not be tried.

A possessive repetition takes one stretch after the other, each time the one its body prefers
(`Pattern.preferred`), and has a single end.
-/

namespace DelegateAudit

/-- A place in a text. -/
structure Cursor where
  /-- How many characters lie before. -/
  offset : Nat
  /-- The character just before, if any. -/
  previous : Option CodePoint
  /-- The text after. -/
  rest : Text
deriving DecidableEq, Repr

namespace Cursor

/-- The place at the start of a text. -/
def atStart (t : Text) : Cursor := ⟨0, none, t⟩

/-- Put a place into an ordered list, unless it is there. -/
def insert (c : Cursor) : List Cursor → List Cursor
  | [] => [c]
  | d :: rest =>
    if c.offset < d.offset then c :: d :: rest
    else if c.offset = d.offset then d :: rest
    else d :: insert c rest

/-- All places of two ordered lists. -/
def union (cs ds : List Cursor) : List Cursor := cs.foldr insert ds

/-- The places reached from any place of a list by one step. -/
def stepAll (step : Cursor → List Cursor) (cs : List Cursor) : List Cursor :=
  cs.foldr (fun c found => union (step c) found) []

/-- Places reached by exactly `n` steps. -/
def exactly (step : Cursor → List Cursor) : (n : Nat) → List Cursor → List Cursor
  | 0, cs => cs
  | n + 1, cs => exactly step n (stepAll step cs)

/-- Places reached by at most `n` steps. -/
def atMost (step : Cursor → List Cursor) : (n : Nat) → List Cursor → List Cursor
  | 0, cs => cs
  | n + 1, cs => union cs (atMost step n (stepAll step cs))

/-- Places reached by any number of steps from an ordered list of places. -/
def closure (step : Cursor → List Cursor) : (fuel : Nat) → List Cursor → List Cursor
  | _, [] => []
  | 0, cs => cs
  | fuel + 1, c :: waiting =>
    let further := (step c).filter fun d => c.offset < d.offset
    c :: closure step fuel (union further waiting)

/-- Does a word start or end here? -/
def atBoundary (c : Cursor) : Bool :=
  (c.previous.any CodePoint.isWord) != (c.rest.head?.any CodePoint.isWord)

/-- The place reached by exactly `n` steps without a choice. -/
def walk (step : Cursor → Option Cursor) : (n : Nat) → Cursor → Option Cursor
  | 0, c => some c
  | n + 1, c => (step c).bind (walk step n)

/-- The place reached by as many steps without a choice as possible, at most `n`. A step that does
not advance is the last. -/
def walkOn (step : Cursor → Option Cursor) : (n : Nat) → Cursor → Cursor
  | 0, c => c
  | n + 1, c =>
    match step c with
    | none => c
    | some d => if d.offset = c.offset then c else walkOn step n d

/-- The place reached by at least `least` and at most `most` steps without a choice. -/
def walkBetween (step : Cursor → Option Cursor) (least : Nat) (most : Option Nat) (c : Cursor) :
    Option Cursor :=
  let bound := c.rest.length + 1
  let further := (most.map (· - least)).getD bound
  (walk step (min least bound) c).map (walkOn step (min further bound))

/-- A list of places without repetition, first ones kept. -/
def distinct (cs : List Cursor) : List Cursor :=
  cs.foldr (fun c rest => c :: rest.filter fun d => d.offset ≠ c.offset) []

/-- Places reached by exactly `n` steps, preferred ones first. -/
def rows (step : Cursor → List Cursor) : (n : Nat) → Cursor → List Cursor
  | 0, c => [c]
  | n + 1, c => distinct ((step c).flatMap (rows step n))

/-- Places reached by at most `n` steps, preferred ones first. A step that does not advance is the
last. -/
def shortRows (step : Cursor → List Cursor) (eager : Bool) : (n : Nat) → Cursor → List Cursor
  | 0, c => [c]
  | n + 1, c =>
    let further := (step c).flatMap fun d =>
      if d.offset = c.offset then [c] else shortRows step eager n d
    distinct (if eager then further ++ [c] else c :: further)

/-- Is there no text before and after this place? -/
def isAlone (c : Cursor) : Bool := c.previous.isNone && c.rest.isEmpty

/-- Does the condition hold here? A place in an empty text is not inside of anything. -/
def satisfies (c : Cursor) : Anchor → Bool
  | .start => c.previous.isNone
  | .lineEnd => c.rest = [] || c.rest = [.scalar '\n']
  | .finish => c.rest = []
  | .boundary => c.atBoundary
  | .inside => !c.atBoundary && !c.isAlone

end Cursor

namespace Pattern

/-- The places where a match that starts at `c` can end, preferred ones first. -/
def preferences : Pattern → Cursor → List Cursor
  | .empty, c => [c]
  | .set chars, c =>
    match c.rest with
    | [] => []
    | d :: rest => if chars.has d then [⟨c.offset + 1, some d, rest⟩] else []
  | .anchor place, c => if c.satisfies place then [c] else []
  | .seq first second, c => Cursor.distinct ((preferences first c).flatMap (preferences second))
  | .alt left right, c => Cursor.distinct (preferences left c ++ preferences right c)
  | .group body, c => preferences body c
  | .times .possessive body least most, c =>
    (Cursor.walkBetween (fun c => (preferences body c).head?) least most c).toList
  | .times choice body least most, c =>
    let bound := c.rest.length + 1
    let further := (most.map (· - least)).getD bound
    Cursor.distinct ((Cursor.rows (preferences body) (min least bound) c).flatMap
      (Cursor.shortRows (preferences body) (choice = .eager) (min further bound)))

/-- The place where a match that starts at `c` ends by preference. -/
def preferred (p : Pattern) (c : Cursor) : Option Cursor := (p.preferences c).head?

/-- The places where a match that starts at `c` can end. -/
def ends : Pattern → Cursor → List Cursor
  | .empty, c => [c]
  | .set chars, c =>
    match c.rest with
    | [] => []
    | d :: rest => if chars.has d then [⟨c.offset + 1, some d, rest⟩] else []
  | .anchor place, c => if c.satisfies place then [c] else []
  | .seq first second, c => Cursor.stepAll (ends second) (ends first c)
  | .alt left right, c => Cursor.union (ends left c) (ends right c)
  | .group body, c => ends body c
  | .times .possessive body least most, c =>
    (Cursor.walkBetween body.preferred least most c).toList
  | .times _ body least most, c =>
    let bound := c.rest.length + 1
    let reached := Cursor.exactly (ends body) (min least bound) [c]
    match most with
    | none => Cursor.closure (ends body) bound reached
    | some most => Cursor.atMost (ends body) (min (most - least) bound) reached

/-- Does a match start at this place or at a later one? -/
def searchFrom (p : Pattern) : (offset : Nat) → (previous : Option CodePoint) → Text → Bool
  | offset, previous, [] => !(p.ends ⟨offset, previous, []⟩).isEmpty
  | offset, previous, c :: rest =>
    !(p.ends ⟨offset, previous, c :: rest⟩).isEmpty || searchFrom p (offset + 1) (some c) rest

/-- Does the text have a match anywhere? -/
def search (p : Pattern) (t : Text) : Bool := p.searchFrom 0 none t

end Pattern
end DelegateAudit

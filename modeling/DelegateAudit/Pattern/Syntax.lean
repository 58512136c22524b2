import DelegateAudit.Text.Blank
import DelegateAudit.Text.Case
import DelegateAudit.Text.Digit
import DelegateAudit.Text.Word

/-!
# DelegateAudit — patterns

Source lines are searched with patterns. Only the question whether a line has a match
is ever asked, so a pattern is a description of matching stretches and nothing more:
groups keep no contents. Whether a repetition is eager or lazy only says which stretch it
prefers, which matters inside a possessive one, since that never gives up its first choice.
-/

namespace DelegateAudit

/-- A class of characters with a name. -/
inductive Category where
  | digit
  | blank
  | word
deriving DecidableEq, Repr

/-- Is the code point in the class? -/
def Category.has : Category → CodePoint → Bool
  | .digit => CodePoint.isDigit
  | .blank => CodePoint.isBlank
  | .word => CodePoint.isWord

/-- One entry of a character set. -/
inductive SetItem where
  | single (c : CodePoint)
  | range (first last : Nat)
  | category (kind : Category) (negated : Bool)
deriving DecidableEq, Repr

/-- A set of characters, given by what is in it or by what is not. -/
structure CharSet where
  negated : Bool
  items : List SetItem
  /-- Do the two cases of a letter count as one? -/
  caseless : Bool := false
deriving DecidableEq, Repr

/-- Is the code point described by the entry? -/
def SetItem.has (caseless : Bool) (c : CodePoint) : SetItem → Bool
  | .single d => if caseless then c.caseForms.contains d.value else c = d
  | .range first last =>
    if caseless then c.caseForms.any fun n => first ≤ n && n ≤ last
    else first ≤ c.value && c.value ≤ last
  | .category kind negated => kind.has (if caseless then c.lower else c) != negated

/-- Is the code point in the set? -/
def CharSet.has (chars : CharSet) (c : CodePoint) : Bool :=
  chars.items.any (SetItem.has chars.caseless c) != chars.negated

/-- A condition on a place between two characters. -/
inductive Anchor where
  /-- The start of the text. -/
  | start
  /-- The end of the text, or the place before a line feed that ends it. -/
  | lineEnd
  /-- The very end of the text. -/
  | finish
  /-- A word starts or ends here. -/
  | boundary
  /-- No word starts or ends here, in a text that is not empty. -/
  | inside
deriving DecidableEq, Repr

/-- How a repetition chooses how often it repeats. -/
inductive Choice where
  /-- As often as possible first. -/
  | eager
  /-- As seldom as possible first. -/
  | lazy
  /-- As often as possible, and never otherwise. -/
  | possessive
deriving DecidableEq, Repr

/-- A pattern. -/
inductive Pattern where
  | empty
  | set (chars : CharSet)
  | anchor (place : Anchor)
  | seq (first second : Pattern)
  | alt (left right : Pattern)
  /-- Between `least` and `most` stretches in a row, without a bound if `most` is missing. -/
  | times (choice : Choice) (body : Pattern) (least : Nat) (most : Option Nat)
  | group (body : Pattern)
deriving DecidableEq, Repr

namespace Pattern

/-- The pattern of one character. -/
def char (c : CodePoint) : Pattern := .set ⟨false, [.single c], false⟩

/-- The pattern of any character but a line feed. -/
def any : Pattern := .set ⟨true, [.single (.scalar '\n')], false⟩

/-- The pattern of a class of characters. -/
def ofCategory (kind : Category) (negated : Bool) : Pattern :=
  .set ⟨false, [.category kind negated], false⟩

/-- Patterns one after the other. -/
def sequence : List Pattern → Pattern
  | [] => .empty
  | [p] => p
  | p :: q :: rest => .seq p (sequence (q :: rest))

/-- The same pattern with letter case of no account. -/
def ignoringCase : Pattern → Pattern
  | .empty => .empty
  | .set chars => .set { chars with caseless := true }
  | .anchor place => .anchor place
  | .seq first second => .seq first.ignoringCase second.ignoringCase
  | .alt left right => .alt left.ignoringCase right.ignoringCase
  | .times choice body least most => .times choice body.ignoringCase least most
  | .group body => .group body.ignoringCase

end Pattern
end DelegateAudit

import DelegateAudit.Text.Case
import DelegateAudit.Text.Word

/-!
# DelegateAudit — listings

A disassembler turns code into lines of text, one instruction to a line. A line counts as
a hit when it has the word DELEGATECALL in any letter case: the letters next to it, if
any, are no word characters. Lines are numbered from one.
-/

namespace DelegateAudit.Listing

/-- The word looked for, in lower case. -/
def token : Text := "delegatecall"

/-- Does the text start with the word and nothing that would continue it? -/
def startsWithToken (t : Text) : Bool :=
  (t.take token.length).map CodePoint.lower = token &&
    !(t.drop token.length).head?.any CodePoint.isWord

/-- Does the word stand in the text? The flag tells whether a word character comes just before. -/
def hasTokenFrom : (afterWord : Bool) → Text → Bool
  | _, [] => false
  | afterWord, c :: rest =>
    (!afterWord && startsWithToken (c :: rest)) || hasTokenFrom c.isWord rest

/-- Is the line a hit? -/
def isHit (line : Text) : Bool := hasTokenFrom false line

/-- The numbers of the hits, the first line having the given number. -/
def hitsFrom : (number : Nat) → List Text → List Nat
  | _, [] => []
  | number, line :: rest =>
    if isHit line then number :: hitsFrom (number + 1) rest else hitsFrom (number + 1) rest

/-- The numbers of the hits. -/
def hits (lines : List Text) : List Nat := hitsFrom 1 lines

/-- How many hits there are. -/
def hitCount (lines : List Text) : Nat := (hits lines).length

/-- Is there a hit? -/
def hasHit (lines : List Text) : Bool := lines.any isHit

end DelegateAudit.Listing

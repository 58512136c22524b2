import DelegateAudit.Number.Binary64
import DelegateAudit.Text.Blank

/-!
# DelegateAudit — numbers as people write them

A setting that is a number may have blanks around it and a sign, may leave out the digits
on one side of the point, and may be one of the words for infinity and for no number at
all. Single underscores may stand inside it.
-/

namespace DelegateAudit.Binary64

/-- Is this one of the ten plain digits? -/
def isPlainDigit (c : CodePoint) : Bool := c.between 0x30 0x39

/-- The number that plain digits spell. -/
def plainValue (digits : Text) : Nat := digits.foldl (fun n c => 10 * n + (c.value - 0x30)) 0

/-- The small form of a plain letter; all else stays. -/
def smallLetter (c : CodePoint) : CodePoint :=
  if c.between 0x41 0x5A then .ofValue (c.value + 0x20) else c

/-- A sign, if there is one, and what follows it. -/
def takeSign : Text → Bool × Text
  | .scalar '-' :: rest => (true, rest)
  | .scalar '+' :: rest => (false, rest)
  | t => (false, t)

/-- The exponent that a text ends with; it may be missing altogether. -/
def exponentOf? : Text → Option Int
  | [] => some 0
  | c :: rest =>
    let (negative, digits) := takeSign rest
    if smallLetter c = .scalar 'e' && !digits.isEmpty && digits.all isPlainDigit then
      let n : Int := plainValue digits
      some (if negative then -n else n)
    else none

/-- A point and the digits after it, if there is one, and what follows. -/
def takeFraction : Text → Text × Text
  | .scalar '.' :: rest => (rest.takeWhile isPlainDigit, rest.dropWhile isPlainDigit)
  | t => ([], t)

/-- A number written with digits. -/
def ofDigits? (negative : Bool) (t : Text) : Option Binary64 :=
  let whole := t.takeWhile isPlainDigit
  let (fraction, rest) := takeFraction (t.dropWhile isPlainDigit)
  if whole.isEmpty && fraction.isEmpty then none
  else
    (exponentOf? rest).map fun exponent =>
      .ofDecimal negative (plainValue (whole ++ fraction)) (exponent - fraction.length)

/-- A number, without blanks and underscores. -/
def ofPlain? (t : Text) : Option Binary64 :=
  let (negative, body) := takeSign t
  let word := body.map smallLetter
  if word = "inf" || word = "infinity" then some (.infinite negative)
  else if word = "nan" then some .nan
  else ofDigits? negative body

/-- Do underscores stand only singly, and neither first nor last? -/
def underscoresFit (t : Text) : Bool :=
  t.head? ≠ some (.scalar '_') && t.getLast? ≠ some (.scalar '_') && !Text.contains "__" t

/-- A number as written in a setting. -/
def ofText? (t : Text) : Option Binary64 :=
  (ofPlain? t.unpad).or
    (if underscoresFit t then ofPlain? (t.filter fun c => c ≠ .scalar '_') else none)

end DelegateAudit.Binary64

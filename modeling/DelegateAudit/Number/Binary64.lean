import DelegateAudit.Text.Basic

/-!
# DelegateAudit — binary floating point

Numbers with a fraction are kept as 64-bit binary floating point: a sign and
`mantissa · 2 ^ exponent` with at most 53 bits of mantissa. Nothing here computes
with machine floats, so every rounding step is visible to a proof.

`Binary64.ofRatio` takes a fraction of natural numbers to the nearest number, a half
going to the even neighbour, and `Binary64.ofDecimal` does the same for decimal
notation.
-/

namespace DelegateAudit

/-- A 64-bit binary floating point number. -/
inductive Binary64 where
  /-- `mantissa · 2 ^ exponent`, negated if `negative`. -/
  | finite (negative : Bool) (mantissa : Nat) (exponent : Int)
  | infinite (negative : Bool)
  | nan
deriving DecidableEq, Repr, Inhabited

namespace Binary64

/-- The least exponent; numbers there may have fewer than 53 bits. -/
def minExponent : Int := -1074

/-- The largest exponent of a finite number. -/
def maxExponent : Int := 971

/-- The least mantissa that has too many bits. -/
def mantissaLimit : Nat := 0x20000000000000

/-- Is this zero, of either sign? -/
def isZero : Binary64 → Bool
  | .finite _ 0 _ => true
  | _ => false

/-- A fraction times a power of two, as a fraction. -/
def scale (num den : Nat) (exponent : Int) : Nat × Nat :=
  match exponent with
  | .ofNat n => (num * Nat.pow 2 n, den)
  | .negSucc n => (num, den * Nat.pow 2 (n + 1))

/-- The natural number nearest to a fraction, a half going to the even one. -/
def roundDiv (num den : Nat) : Nat :=
  let q := num / den
  let r := num % den
  if 2 * r < den then q
  else if den < 2 * r then q + 1
  else if q % 2 = 0 then q else q + 1

/-- The number nearest to `num / den`, for a positive `den`. -/
def ofRatio (negative : Bool) (num den : Nat) : Binary64 :=
  if num = 0 then .finite negative 0 minExponent
  else
    -- The quotient lies between two powers of two; this guess leaves 53 or 54 bits.
    let guess : Int := (num.log2 : Int) - (den.log2 : Int) - 53
    let (n, d) := scale num den (-guess)
    let exponent := max (if n / d < mantissaLimit then guess else guess + 1) minExponent
    let (n, d) := scale num den (-exponent)
    let mantissa := roundDiv n d
    let (mantissa, exponent) :=
      if mantissa = mantissaLimit then (mantissaLimit / 2, exponent + 1) else (mantissa, exponent)
    if maxExponent < exponent then .infinite negative else .finite negative mantissa exponent

/-- The number nearest to `digits · 10 ^ exponent`. Magnitudes far outside the range are settled
without computing the power. -/
def ofDecimal (negative : Bool) (digits : Nat) (exponent : Int) : Binary64 :=
  let magnitude : Int := (Nat.toDigits 10 digits).length + exponent
  if digits = 0 || magnitude < -400 then .finite negative 0 minExponent
  else if 400 < magnitude then .infinite negative
  else
    match exponent with
    | .ofNat n => ofRatio negative (digits * Nat.pow 10 n) 1
    | .negSucc n => ofRatio negative digits (Nat.pow 10 (n + 1))

end Binary64
end DelegateAudit

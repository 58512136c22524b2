import DelegateAudit.Number.Binary64

/-!
# DelegateAudit — shortest decimal text of a number

A floating point number is shown with the fewest decimal digits that read back as
the same number. The reals that round to `m · 2 ^ q` form an interval around it,
ends included when `m` is even. On the grid of decimals with one digit, then two, and
so on, the two neighbours of the number are tried; the first grid that has one of
them in the interval gives the digits, the nearer neighbour winning.

All comparisons are between natural numbers: the number and the ends of its interval
are brought to one common denominator.
-/

namespace DelegateAudit.Binary64

/-- A number and the interval that rounds to it, over one denominator. -/
structure Interval where
  low : Nat
  value : Nat
  high : Nat
  denominator : Nat
  /-- Do the ends themselves round to the number? -/
  closed : Bool

/-- The interval of a positive number. Just above a power of two the lower gap is half as wide. -/
def interval (mantissa : Nat) (exponent : Int) : Interval :=
  let gap := if mantissa = mantissaLimit / 2 && minExponent < exponent then 1 else 2
  -- In quarters of a unit: the value is `4 m`, the ends are `4 m - gap` and `4 m + 2`.
  let (unit, denominator) := scale 1 1 (exponent - 2)
  ⟨(4 * mantissa - gap) * unit, 4 * mantissa * unit, (4 * mantissa + 2) * unit, denominator,
    mantissa % 2 = 0⟩

/-- Is the fraction `num / den` in the interval? -/
def Interval.has (i : Interval) (num den : Nat) : Bool :=
  let low := compare (i.low * den) (num * i.denominator)
  let high := compare (num * i.denominator) (i.high * den)
  if i.closed then low.isLE && high.isLE else low.isLT && high.isLT

/-- The neighbour on a grid that reads back, the nearer one if both do. -/
def Interval.onGrid? (i : Interval) (num den : Nat) : Option Nat :=
  -- The grid has the points `k · num / den`.
  let below := i.value * den / (i.denominator * num)
  let above := below + 1
  match i.has (below * num) den, i.has (above * num) den with
  | false, false => none
  | true, false => some below
  | false, true => some above
  | true, true =>
    let twice := 2 * i.value * den
    let middle := (below + above) * num * i.denominator
    match compare twice middle with
    | .lt => some below
    | .gt => some above
    | .eq => some (if below % 2 = 0 then below else above)

/-- Ten to an integer power, as a fraction. -/
def tenPower (n : Int) : Nat × Nat :=
  match n with
  | .ofNat n => (Nat.pow 10 n, 1)
  | .negSucc n => (1, Nat.pow 10 (n + 1))

/-- Try grids of `digits`, `digits + 1`, … digits for a number below `10 ^ point`. -/
def digitsFrom (i : Interval) (point : Int) : (tries digits : Nat) → Nat × Int
  | 0, _ => (0, point)
  | tries + 1, digits =>
    let exponent := point - digits
    let (num, den) := tenPower exponent
    match i.onGrid? num den with
    | some k => (k, exponent)
    | none => digitsFrom i point tries (digits + 1)

/-- The least `point` with the number below `10 ^ point`, looked for from a lower bound upwards. -/
def pointFrom (i : Interval) : (tries : Nat) → (point : Int) → Int
  | 0, point => point
  | tries + 1, point =>
    let (num, den) := tenPower point
    if i.value * den < num * i.denominator then point else pointFrom i tries (point + 1)

/-- The shortest digits `k` and exponent `e` of a positive number, read as `k · 10 ^ e`. -/
def shortest (mantissa : Nat) (exponent : Int) : Nat × Int :=
  let i := interval mantissa exponent
  -- `log10 2` lies between 0.30102 and 0.30103, so the guess is at most three too low.
  let bits : Int := (mantissa.log2 : Int) + exponent
  let guess := Int.fdiv (bits * 30103) 100000 - 1
  digitsFrom i (pointFrom i 5 guess) 17 1

/-- The parts of an output format for numbers. -/
structure Format where
  /-- Decimal exponents below this one are written with an exponent. -/
  leastPositional : Int
  /-- Decimal exponents from this one on are written with an exponent. -/
  pastPositional : Int
  /-- The least number of digits of a written exponent. -/
  exponentDigits : Nat

/-- The format of every number this library writes: positional from `0.0001` up to `1e16`, where a
fraction always shows, and exponents of at least two digits with their sign. -/
def format : Format := ⟨-4, 16, 2⟩

/-- Digits without the zeros at their end, and the exponent that makes up for them. -/
def trimZeros : (fuel digits : Nat) → (exponent : Int) → Nat × Int
  | 0, digits, exponent => (digits, exponent)
  | fuel + 1, digits, exponent =>
    if digits % 10 = 0 && digits ≠ 0 then trimZeros fuel (digits / 10) (exponent + 1)
    else (digits, exponent)

/-- The text of `digits · 10 ^ exponent`. -/
def writeDecimal (format : Format) (digits : Nat) (exponent : Int) : Text :=
  let (digits, exponent) := trimZeros 20 digits exponent
  let shown := Text.ofNat digits
  -- The exponent of the first digit.
  let lead : Int := exponent + shown.length - 1
  if lead < format.leastPositional || format.pastPositional ≤ lead then
    let fraction : Text := if shown.length ≤ 1 then [] else .scalar '.' :: shown.drop 1
    let size := Text.ofNat lead.natAbs
    shown.take 1 ++ fraction ++ "e" ++ (if lead < 0 then "-" else "+") ++
      Text.zeros (format.exponentDigits - size.length) ++ size
  else if lead < 0 then
    "0." ++ Text.zeros (lead.natAbs - 1) ++ shown
  else
    let whole := lead.toNat + 1
    if shown.length ≤ whole then
      shown ++ Text.zeros (whole - shown.length) ++ ".0"
    else shown.take whole ++ "." ++ shown.drop whole

/-- The text of a number. -/
def toText : Binary64 → Text
  | .nan => "nan"
  | .infinite negative => if negative then "-inf" else "inf"
  | .finite negative mantissa exponent =>
    let sign : Text := if negative then "-" else ""
    if mantissa = 0 then sign ++ "0.0"
    else
      let (digits, tens) := shortest mantissa exponent
      sign ++ writeDecimal format digits tens

end DelegateAudit.Binary64

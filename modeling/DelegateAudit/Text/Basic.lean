/-!
# DelegateAudit — text

Text is a list of code points. A JSON file can spell half of a surrogate pair
(`"\ud800"`), and such a string has to survive reading, comparing and printing,
so a code point here is a Unicode scalar value *or* a lone surrogate. Keeping
the two apart says which texts have an encoding: exactly those made of scalars.

## Contents

* `CodePoint`, `Text`          — the carrier, with coercions from literals.
* `CodePoint.value`            — the number of a code point; the order of texts.
* `Text.ofNat`, `Text.ofInt`   — decimal numerals.
* `Text.contains`, `Text.find?`, `Text.splitOn` — searching and cutting.
-/

namespace DelegateAudit

/-- A code point: a scalar value, or one of the 2048 surrogates standing alone. -/
inductive CodePoint where
  | scalar (c : Char)
  | surrogate (s : Fin 0x800)
deriving DecidableEq, Repr, Inhabited

/-- Text as the tools see it: code points, counted and cut one by one. -/
abbrev Text := List CodePoint

instance : Coe Char CodePoint := ⟨.scalar⟩

namespace CodePoint

/-- The number of a code point; surrogates lie in `0xD800 … 0xDFFF`. -/
def value : CodePoint → Nat
  | .scalar c => c.toNat
  | .surrogate s => 0xD800 + s.val

/-- The code point with a given number. Numbers past the last one give the
replacement character, which no caller relies on. -/
def ofValue (n : Nat) : CodePoint :=
  if h : 0xD800 ≤ n ∧ n < 0xE000 then .surrogate ⟨n - 0xD800, by omega⟩
  else if n < 0x110000 then .scalar (Char.ofNat n)
  else .scalar (Char.ofNat 0xFFFD)

/-- Is this one of the first 128 code points? -/
def isAscii (c : CodePoint) : Bool := c.value < 128

/-- Does the number of a code point lie between two others, ends included? -/
def between (lo hi : Nat) (c : CodePoint) : Bool := lo ≤ c.value && c.value ≤ hi

end CodePoint

namespace Text

/-- The text of a string literal. -/
def ofString (s : String) : Text := s.toList.map .scalar

instance : Coe String Text := ⟨ofString⟩

@[simp] theorem ofString_append (s t : String) : ofString (s ++ t) = ofString s ++ ofString t := by
  simp [ofString]

/-! ## Order -/

/-- Code-point order of texts: the first difference decides, a proper start comes first. -/
def cmp : Text → Text → Ordering
  | [], [] => .eq
  | [], _ :: _ => .lt
  | _ :: _, [] => .gt
  | a :: s, b :: t => (compare a.value b.value).then (cmp s t)

/-- `s` comes no later than `t` in code-point order. -/
def le (s t : Text) : Bool := (cmp s t).isLE

/-! ## Numerals -/

/-- A natural number in decimal. -/
def ofNat (n : Nat) : Text := (Nat.toDigits 10 n).map .scalar

/-- An integer in decimal, a minus sign before the negative ones. -/
def ofInt : Int → Text
  | .ofNat n => ofNat n
  | .negSucc n => .scalar '-' :: ofNat (n + 1)

/-- A row of zeros. -/
def zeros (n : Nat) : Text := List.replicate n (.scalar '0')

/-- A row of blanks. -/
def blanks (n : Nat) : Text := List.replicate n (.scalar ' ')

/-- A number in lower-case hexadecimal, filled with zeros to at least `width` digits. -/
def ofHex (width n : Nat) : Text :=
  let digits := (Nat.toDigits 16 n).map CodePoint.scalar
  zeros (width - digits.length) ++ digits

/-! ## Searching and cutting -/

/-- Does `needle` occur somewhere in the text? -/
def contains (needle : Text) : Text → Bool
  | [] => needle.isEmpty
  | c :: rest => needle.isPrefixOf (c :: rest) || contains needle rest

/-- The offset of the first occurrence of `needle`. -/
def find? (needle : Text) : Text → Option Nat
  | [] => if needle.isEmpty then some 0 else none
  | c :: rest =>
    if needle.isPrefixOf (c :: rest) then some 0 else (find? needle rest).map (· + 1)

/-- The pieces between the occurrences of a separator: one more than there are separators. -/
def splitOn (sep : CodePoint) : Text → List Text
  | [] => [[]]
  | c :: rest =>
    match splitOn sep rest with
    | [] => [[c]]
    | piece :: pieces => if c = sep then [] :: piece :: pieces else (c :: piece) :: pieces

/-- Pieces put together with a separator between neighbours. -/
def join (sep : Text) (pieces : List Text) : Text := List.intercalate sep pieces

/-- Fill up with blanks on the right to at least `width` code points. -/
def padRight (width : Nat) (t : Text) : Text := t ++ blanks (width - t.length)

/-- The characters of a text; lone surrogates have none and show as the replacement character. -/
def toString (t : Text) : String :=
  String.ofList (t.map fun
    | .scalar c => c
    | .surrogate _ => Char.ofNat 0xFFFD)

end Text
end DelegateAudit

import DelegateAudit.Text.Basic

/-!
# DelegateAudit — blanks

White space, and what is cut or split at it. Blank are the Unicode white-space
characters and the four separators `0x1C … 0x1F`; the zero-width blank U+200B and
the byte-order mark are not.

A text breaks into lines at more places than its blanks suggest: at line feed,
vertical tab, form feed, return, the separators `0x1C … 0x1E`, U+0085, U+2028 and
U+2029, a return and a line feed together counting once.
-/

namespace DelegateAudit.CodePoint

/-- Is this white space? -/
def isBlank (c : CodePoint) : Bool :=
  c.between 0x09 0x0D || c.between 0x1C 0x20 || c.value = 0x85 || c.value = 0xA0 ||
    c.value = 0x1680 || c.between 0x2000 0x200A || c.between 0x2028 0x2029 ||
    c.value = 0x202F || c.value = 0x205F || c.value = 0x3000

/-- May this stand around a number? The four separators among the blanks may not. -/
def isPadding (c : CodePoint) : Bool := c.isBlank && !c.between 0x1C 0x1F

/-- Does a line end here? -/
def isLineBreak (c : CodePoint) : Bool :=
  c.between 0x0A 0x0D || c.between 0x1C 0x1E || c.value = 0x85 || c.between 0x2028 0x2029

end DelegateAudit.CodePoint

namespace DelegateAudit.Text

/-- Drop the blanks at the start. -/
def stripLeft (t : Text) : Text := t.dropWhile CodePoint.isBlank

/-- Drop the blanks at the end. -/
def stripRight (t : Text) : Text := (t.reverse.dropWhile CodePoint.isBlank).reverse

/-- Drop the blanks at both ends. -/
def strip (t : Text) : Text := t.stripLeft.stripRight

/-- Drop what may stand around a number. -/
def unpad (t : Text) : Text :=
  ((t.dropWhile CodePoint.isPadding).reverse.dropWhile CodePoint.isPadding).reverse

/-- Lines without their breaks, `line` being the reversed start of the current one. A break at the
very end opens no further line. -/
def linesFrom : (line : Text) → Text → List Text
  | line, [] => if line.isEmpty then [] else [line.reverse]
  | line, .scalar '\r' :: .scalar '\n' :: rest => line.reverse :: linesFrom [] rest
  | line, c :: rest =>
    if c.isLineBreak then line.reverse :: linesFrom [] rest else linesFrom (c :: line) rest

/-- The lines of a text, without their breaks. -/
def lines (t : Text) : List Text := linesFrom [] t

end DelegateAudit.Text

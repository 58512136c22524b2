import DelegateAudit.Text.Printable

/-!
# DelegateAudit — quoted text

How a text is shown inside a message: between quotes, with escapes for whatever
would not be visible. Single quotes are used unless the text has a single quote
and no double quote.
-/

namespace DelegateAudit

namespace CodePoint

/-- The numeric escape of a code point: two, four or eight hexadecimal digits. -/
def escape (c : CodePoint) : Text :=
  if c.value < 0x100 then "\\x" ++ Text.ofHex 2 c.value
  else if c.value < 0x10000 then "\\u" ++ Text.ofHex 4 c.value
  else "\\U" ++ Text.ofHex 8 c.value

/-- A code point inside quotes. -/
def quotedIn (quote c : CodePoint) : Text :=
  if c = quote || c = '\\' then [.scalar '\\', c]
  else if c = '\n' then "\\n"
  else if c = '\r' then "\\r"
  else if c = '\t' then "\\t"
  else if c.isPrintable then [c]
  else c.escape

end CodePoint

namespace Text

/-- The quote that needs the fewest escapes, single if in doubt. -/
def quoteMark (t : Text) : CodePoint :=
  if t.elem (.scalar '\'') && !t.elem (.scalar '"') then .scalar '"' else .scalar '\''

/-- A text in quotes. -/
def quoted (t : Text) : Text :=
  let quote := t.quoteMark
  quote :: t.flatMap (CodePoint.quotedIn quote) ++ [quote]

/-- A text with escapes for everything beyond ASCII. -/
def escapeNonAscii (t : Text) : Text :=
  t.flatMap fun c => if c.value < 0x80 then [c] else c.escape

end Text
end DelegateAudit

import QuerySignature.Text.Hexadecimal
import QuerySignature.Text.Printable

/-!
# Text/Quoted — a text as a message shows it

`quoted` writes a text between quotation marks so that every character of it can be seen.  The mark
is the apostrophe, unless the text holds an apostrophe and no double quote.  The backslash and the
mark in use are escaped by a backslash, line feed, carriage return and tab by their letters, and any
other character that is not printable by its code in lower-case hexadecimal: two digits after `\x`,
four after `\u`, eight after `\U`.
-/

namespace QuerySignature.Text

/-- The mark that encloses the text: a double quote only where it avoids an escape. -/
def quotationMark (text : Text) : Char :=
  if text.contains '\'' && !text.contains '"' then '"' else '\''

/-- A character inside quotation marks. -/
def escapedWithin (mark c : Char) : Text :=
  if c = mark ∨ c = '\\' then ['\\', c]
  else if c = '\n' then ['\\', 'n']
  else if c = '\r' then ['\\', 'r']
  else if c = '\t' then ['\\', 't']
  else if isPrintable c then [c]
  else if c.toNat < 0x100 then '\\' :: 'x' :: hexadecimal 2 c.toNat
  else if c.toNat < 0x10000 then '\\' :: 'u' :: hexadecimal 4 c.toNat
  else '\\' :: 'U' :: hexadecimal 8 c.toNat

/-- **The text between quotation marks**, every character made visible. -/
def quoted (text : Text) : Text :=
  let mark := quotationMark text
  mark :: text.flatMap (escapedWithin mark) ++ [mark]

end QuerySignature.Text

import CallAtlas.Text.Hex
import CallAtlas.Text.Printable

/-!
# Quoted text

`quoted` shows a text on one line between quotes, with escapes for what would not be seen:

- the quotes are single ones, unless the text has a single quote and no double quote;
- the quote in use and the backslash get a backslash before them;
- tab, line feed and carriage return are `\t`, `\n` and `\r`;
- any other character that is not printable is `\x`, `\u` or `\U` and two, four or eight lower case
  hexadecimal digits, the shortest that hold its code point.
-/

namespace CallAtlas.Text

open Hex (hexDigits)

/-- The quote for a text. -/
def quoteFor (s : List Char) : Char :=
  if s.contains '\x27' && !s.contains '"' then '"' else '\x27'

/-- A character between the quotes `q`. -/
def quotedChar (q c : Char) : List Char :=
  if c = q ∨ c = '\\' then ['\\', c]
  else if c = '\t' then ['\\', 't']
  else if c = '\n' then ['\\', 'n']
  else if c = '\r' then ['\\', 'r']
  else if isPrintable c then [c]
  else if c.toNat < 0x100 then '\\' :: 'x' :: hexDigits 2 c.toNat
  else if c.toNat < 0x10000 then '\\' :: 'u' :: hexDigits 4 c.toNat
  else '\\' :: 'U' :: hexDigits 8 c.toNat

/-- The text between quotes, on one line. -/
def quoted (s : String) : String :=
  let q := quoteFor s.toList
  String.ofList (q :: s.toList.flatMap (quotedChar q) ++ [q])

end CallAtlas.Text

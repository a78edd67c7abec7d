import CallAtlas.Json.Basic
import CallAtlas.Text.Hex

/-!
# The text of a JSON value

The text is ASCII: in a string the quote and the backslash get a backslash before them, line feed,
carriage return, tab, form feed and backspace their short escape, and any other character outside
U+0020 to U+007E becomes `\u` and four lower case digits for each of its UTF-16 units.

- `compact`: on one line, with `, ` and `: ` between the parts;
- `indented`: every member and item on a line of its own, two blanks per level; an empty array or
  object stays on one line.
-/

namespace CallAtlas.Json

open Text.Hex (hexDigits)

/-- The escape of one UTF-16 unit. -/
def escapedUnit (n : Nat) : List Char :=
  '\\' :: 'u' :: hexDigits 4 n

/-- A character in a string. -/
def escapedChar (c : Char) : List Char :=
  if c = '"' then ['\\', '"']
  else if c = '\\' then ['\\', '\\']
  else if c = '\n' then ['\\', 'n']
  else if c = '\r' then ['\\', 'r']
  else if c = '\t' then ['\\', 't']
  else if c.toNat = 0x0C then ['\\', 'f']
  else if c.toNat = 0x08 then ['\\', 'b']
  else if 0x20 ≤ c.toNat ∧ c.toNat ≤ 0x7E then [c]
  else if c.toNat < 0x10000 then escapedUnit c.toNat
  else escapedUnit (0xD800 + (c.toNat - 0x10000) / 0x400) ++
    escapedUnit (0xDC00 + (c.toNat - 0x10000) % 0x400)

/-- A string with its quotes. -/
def escapedString (s : String) : String :=
  String.ofList ('"' :: s.toList.flatMap escapedChar ++ ['"'])

mutual

/-- Adds the value on one line to `out`. -/
def writeCompact (out : String) : Json → String
  | .null => out ++ "null"
  | .bool true => out ++ "true"
  | .bool false => out ++ "false"
  | .int i => out ++ toString i
  | .str s => out ++ escapedString s
  | .arr items => writeItems (out ++ "[") "" items ++ "]"
  | .obj members => writeMembers (out ++ "\x7b") "" members ++ "\x7d"

/-- Adds the items to `out`, with `sep` before the first. -/
def writeItems (out sep : String) : List Json → String
  | [] => out
  | v :: rest => writeItems (writeCompact (out ++ sep) v) ", " rest

/-- Adds the members to `out`, with `sep` before the first. -/
def writeMembers (out sep : String) : List (String × Json) → String
  | [] => out
  | (name, v) :: rest =>
    writeMembers (writeCompact (out ++ sep ++ escapedString name ++ ": ") v) ", " rest

end

/-- The value on one line. -/
def compact (v : Json) : String :=
  writeCompact "" v

/-- The start of a line at a level. -/
def newline (level : Nat) : String :=
  String.ofList ('\n' :: List.replicate (2 * level) ' ')

mutual

/-- Adds the value to `out`, on lines whose level is at least `level`. -/
def writeIndented (out : String) (level : Nat) : Json → String
  | .null => out ++ "null"
  | .bool true => out ++ "true"
  | .bool false => out ++ "false"
  | .int i => out ++ toString i
  | .str s => out ++ escapedString s
  | .arr [] => out ++ "[]"
  | .arr (v :: rest) =>
    writeIndentedItems (writeIndented (out ++ "[" ++ newline (level + 1)) (level + 1) v)
      (level + 1) rest ++ newline level ++ "]"
  | .obj [] => out ++ "\x7b\x7d"
  | .obj ((name, v) :: rest) =>
    writeIndentedMembers
      (writeIndented (out ++ "\x7b" ++ newline (level + 1) ++ escapedString name ++ ": ")
        (level + 1) v)
      (level + 1) rest ++ newline level ++ "\x7d"

/-- Adds the items after the first to `out`. -/
def writeIndentedItems (out : String) (level : Nat) : List Json → String
  | [] => out
  | v :: rest =>
    writeIndentedItems (writeIndented (out ++ "," ++ newline level) level v) level rest

/-- Adds the members after the first to `out`. -/
def writeIndentedMembers (out : String) (level : Nat) : List (String × Json) → String
  | [] => out
  | (name, v) :: rest =>
    writeIndentedMembers
      (writeIndented (out ++ "," ++ newline level ++ escapedString name ++ ": ") level v)
      level rest

end

/-- The value on several lines. -/
def indented (v : Json) : String :=
  writeIndented "" 0 v

end CallAtlas.Json

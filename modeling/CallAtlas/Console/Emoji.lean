import CallAtlas.Console.EmojiTable
import CallAtlas.Text.Blank
import CallAtlas.Text.Hex

/-!
# Emoji in a text

A text may have an emoji as a code: its name between two colons, in letters of either case. `-emoji` or
`-text` after the name asks for the coloured or the plain form.

- `emoji?`: the emoji of a name;
- `expandEmoji`: a text with its codes replaced; a code that names no emoji stays as it is.

A code ends at the first colon after it, whether it names an emoji or not, so the colon at the end of one
code never starts another.
-/

namespace CallAtlas.Console

/-- The character whose code point has these hexadecimal digits. -/
def charOfHex (digits : List Char) : Char :=
  Char.ofNat (digits.foldl (fun n d => 16 * n + (Text.Hex.digitValue? d).getD 0) 0)

/-- The emoji of that name. -/
def emoji? (name : String) : Option (List Char) :=
  (emojiTable.find? fun e => e.1 == name).map fun e => (Text.pieces '-' e.2.toList).map charOfHex

/-- A character in lower case, as far as names of emoji need it: besides the ASCII letters, they have
seven letters with a capital. -/
def lowerChar (c : Char) : Char :=
  if c = 'Ã' then 'ã' else if c = 'Å' ∨ c = '\u212b' then 'å' else if c = 'Ç' then 'ç'
  else if c = 'É' then 'é' else if c = 'Í' then 'í' else if c = 'Ô' then 'ô'
  else if c = '\u212a' then 'k' else c.toLower

/-- The ends of a name that ask for a form, with the character that selects it. -/
def formEndings : List (List Char × Char) :=
  [(['-', 'e', 'm', 'o', 'j', 'i'], '\ufe0f'), (['-', 't', 'e', 'x', 't'], '\ufe0e')]

/-- A code between its colons, as its name and the character that selects the form asked for. -/
def nameAndForm (code : List Char) : List Char × List Char :=
  match formEndings.find? fun e => e.1.isSuffixOf code with
  | some (ending, selector) => (code.take (code.length - ending.length), [selector])
  | none => (code, [])

/-- What stands for a code. -/
def emojiOfCode (code : List Char) : List Char :=
  let (name, form) := nameAndForm code
  match emoji? (String.ofList (name.map lowerChar)) with
  | some emoji => emoji ++ form
  | none => ':' :: code ++ [':']

/-- The code after a colon: what stands before the next colon, if that has no blank. -/
def codeAt? (s : List Char) : Option (List Char) :=
  match Text.cutFirst ':' s with
  | some (code, _) => if code.any Text.isBlank then none else some code
  | none => none

/-- What follows the next `skip` characters, with its codes replaced. -/
def expandEmojiFrom : (skip : Nat) → List Char → List Char
  | _, [] => []
  | skip + 1, _ :: rest => expandEmojiFrom skip rest
  | 0, c :: rest =>
    if c = ':' then
      match codeAt? rest with
      | some code => emojiOfCode code ++ expandEmojiFrom (code.length + 1) rest
      | none => c :: expandEmojiFrom 0 rest
    else c :: expandEmojiFrom 0 rest

/-- The text with its codes replaced. -/
def expandEmoji (s : List Char) : List Char :=
  expandEmojiFrom 0 s

example : expandEmoji "a: b:100-text:".toList = "a: b💯\ufe0e".toList := by
  decide +kernel

end CallAtlas.Console

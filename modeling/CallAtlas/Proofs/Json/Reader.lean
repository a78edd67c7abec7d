import CallAtlas.Json.Basic
import CallAtlas.Text.Hex

/-!
# Reading a JSON value

`read?` reads the text of a value, as whoever is given an answer does. Blanks may stand between its parts. A text may
have any escape, and a character that needs two UTF-16 units the escapes of both; numbers are integers, and may have
zeros in front.
-/

namespace CallAtlas.Json

open Text.Hex (digitValue?)

/-- The blanks that may stand between the parts of a value. -/
def isBlank (c : Char) : Bool :=
  c == ' ' || c == '\t' || c == '\n' || c == '\r'

/-- The text without the blanks at its start. -/
def skipBlanks (s : List Char) : List Char :=
  s.dropWhile isBlank

/-! ## Texts -/

/-- The UTF-16 units of a character. -/
def units (c : Char) : List Nat :=
  if c.toNat < 0x10000 then [c.toNat]
  else [0xD800 + (c.toNat - 0x10000) / 0x400, 0xDC00 + (c.toNat - 0x10000) % 0x400]

/-- The characters of UTF-16 units; none if half of a pair stands alone. -/
def ofUnits? : List Nat → Option (List Char)
  | [] => some []
  | u :: rest =>
    if 0xD800 ≤ u ∧ u < 0xDC00 then
      match rest with
      | [] => none
      | v :: rest =>
        if 0xDC00 ≤ v ∧ v < 0xE000 then
          (ofUnits? rest).map (Char.ofNat (0x10000 + (u - 0xD800) * 0x400 + (v - 0xDC00)) :: ·)
        else none
    else if 0xDC00 ≤ u ∧ u < 0xE000 then none
    else (ofUnits? rest).map (Char.ofNat u :: ·)

/-- The number that hexadecimal digits write. -/
def hexValue? (digits : List Char) : Option Nat :=
  digits.foldlM (fun n c => (digitValue? c).map (16 * n + ·)) 0

/-- The unit that a character stands for after a backslash. -/
def shortEscape? (c : Char) : Option Nat :=
  if c = '"' ∨ c = '\\' ∨ c = '/' then some c.toNat
  else if c = 'b' then some 0x08
  else if c = 'f' then some 0x0C
  else if c = 'n' then some 0x0A
  else if c = 'r' then some 0x0D
  else if c = 't' then some 0x09
  else none

/-- The units before the quote that ends a text, and what follows the quote. -/
def readUnits : List Char → Option (List Nat × List Char)
  | [] => none
  | c :: rest =>
    if c = '"' then some ([], rest)
    else if c = '\\' then
      match rest with
      | 'u' :: d₁ :: d₂ :: d₃ :: d₄ :: rest => do
        let u ← hexValue? [d₁, d₂, d₃, d₄]
        let (us, rest) ← readUnits rest
        return (u :: us, rest)
      | e :: rest => do
        let u ← shortEscape? e
        let (us, rest) ← readUnits rest
        return (u :: us, rest)
      | [] => none
    else (readUnits rest).map fun p => (units c ++ p.1, p.2)

/-- The text before the quote that ends it, and what follows the quote. -/
def readText (s : List Char) : Option (String × List Char) := do
  let (us, rest) ← readUnits s
  let cs ← ofUnits? us
  return (String.ofList cs, rest)

/-! ## Values -/

/-- The number whose digits start the text, and what follows them. -/
def readDigits (s : List Char) : Option (Nat × List Char) :=
  match s.takeWhile Char.isDigit with
  | [] => none
  | digits => some (Nat.ofDigitChars 10 digits 0, s.dropWhile Char.isDigit)

/-- The integer at the start of the text, and what follows it. -/
def readInt : List Char → Option (Json × List Char)
  | '-' :: rest => (readDigits rest).map fun p => (.int (-p.1), p.2)
  | s => (readDigits s).map fun p => (.int p.1, p.2)

/-- The value, if the text starts with its word, and what follows it. -/
def readWord (word : List Char) (v : Json) (s : List Char) : Option (Json × List Char) :=
  if word.isPrefixOf s then some (v, s.drop word.length) else none

mutual

/-- The value at the start of the text, and what follows it, with no more than so many steps to its parts. -/
def readValue : Nat → List Char → Option (Json × List Char)
  | 0, _ => none
  | fuel + 1, s =>
    match skipBlanks s with
    | [] => none
    | c :: rest =>
      if c = '"' then (readText rest).map fun p => (.str p.1, p.2)
      else if c = '[' then
        if (skipBlanks rest).head? = some ']' then some (.arr [], (skipBlanks rest).tail)
        else (readItems fuel rest).map fun p => (.arr p.1, p.2)
      else if c = '\x7b' then
        if (skipBlanks rest).head? = some '\x7d' then some (.obj [], (skipBlanks rest).tail)
        else (readMembers fuel rest).map fun p => (.obj p.1, p.2)
      else if c = 'n' then readWord ['u', 'l', 'l'] .null rest
      else if c = 't' then readWord ['r', 'u', 'e'] (.bool true) rest
      else if c = 'f' then readWord ['a', 'l', 's', 'e'] (.bool false) rest
      else readInt (c :: rest)

/-- The items before the bracket that ends an array, of which there is one at least. -/
def readItems : Nat → List Char → Option (List Json × List Char)
  | 0, _ => none
  | fuel + 1, s => do
    let (v, rest) ← readValue fuel s
    match skipBlanks rest with
    | [] => none
    | c :: rest =>
      if c = ']' then return ([v], rest)
      else if c = ',' then
        let (vs, rest) ← readItems fuel rest
        return (v :: vs, rest)
      else none

/-- The members before the brace that ends an object, of which there is one at least. -/
def readMembers : Nat → List Char → Option (List (String × Json) × List Char)
  | 0, _ => none
  | fuel + 1, s =>
    match skipBlanks s with
    | '"' :: rest => do
      let (name, rest) ← readText rest
      match skipBlanks rest with
      | ':' :: rest => do
        let (v, rest) ← readValue fuel rest
        match skipBlanks rest with
        | [] => none
        | c :: rest =>
          if c = '\x7d' then return ([(name, v)], rest)
          else if c = ',' then
            let (ms, rest) ← readMembers fuel rest
            return ((name, v) :: ms, rest)
          else none
      | _ => none
    | _ => none

end

/-- The value that the text is. -/
def read? (s : String) : Option Json := do
  let (v, rest) ← readValue (s.length + 1) s.toList
  if skipBlanks rest = [] then some v else none

end CallAtlas.Json

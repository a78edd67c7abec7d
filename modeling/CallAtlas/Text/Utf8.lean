/-!
# UTF-8

- `encode`: the octets of a text.
- `decode`: the text of any octets. What is not UTF-8 is replaced, one U+FFFD for each longest run
  that starts a character and cannot go on (RFC 3629 §4 says which octets may follow which), or for
  a single octet that starts none.

`decode` is a machine over the octets (`Reader`): between two of them it has a character begun (`Begun`)
or nothing.
-/

namespace CallAtlas.Text.Utf8

/-- The octets of a text. -/
def encode (s : List Char) : List UInt8 :=
  s.flatMap String.utf8EncodeChar

/-- The character that stands for octets that are not UTF-8. -/
def replacement : Char := '\uFFFD'

/-- A character begun: the value of the bits read so far, how many octets are still to come after
the next one, and the least and the greatest octet the next one may be. -/
structure Begun where
  bits : Nat
  later : Nat
  least : Nat
  greatest : Nat
  deriving DecidableEq, Repr

/-- What an octet is at the start of a character. -/
inductive Lead where
  /-- A whole character. -/
  | whole (c : Char)
  /-- The first octet of several. -/
  | first (p : Begun)
  /-- No first octet. -/
  | stray
  deriving DecidableEq, Repr

/-- The first octet of a character. After E0, ED, F0 and F4 the second octet has tighter bounds: they
leave out the longer forms, the surrogates and what is above U+10FFFF. -/
def lead (b : Nat) : Lead :=
  if b ≤ 0x7F then .whole (Char.ofNat b)
  else if b < 0xC2 then .stray
  else if b ≤ 0xDF then .first ⟨b - 0xC0, 0, 0x80, 0xBF⟩
  else if b = 0xE0 then .first ⟨0, 1, 0xA0, 0xBF⟩
  else if b = 0xED then .first ⟨0xD, 1, 0x80, 0x9F⟩
  else if b ≤ 0xEF then .first ⟨b - 0xE0, 1, 0x80, 0xBF⟩
  else if b = 0xF0 then .first ⟨0, 2, 0x90, 0xBF⟩
  else if b ≤ 0xF3 then .first ⟨b - 0xF0, 2, 0x80, 0xBF⟩
  else if b = 0xF4 then .first ⟨4, 2, 0x80, 0x8F⟩
  else .stray

/-- Whether the octet may come next in the character begun. -/
def Begun.allows (p : Begun) (b : Nat) : Bool :=
  p.least ≤ b && b ≤ p.greatest

/-- The bits of the character begun, with those of its next octet. -/
def Begun.extend (p : Begun) (b : Nat) : Nat :=
  p.bits * 64 + (b - 0x80)

/-- The machine between two octets: the character begun, if there is one, and the text read so far,
last character first. -/
structure Reader where
  begun : Option Begun := none
  text : List Char := []

/-- The machine, after one more character. -/
def Reader.emit (r : Reader) (c : Char) : Reader :=
  ⟨none, c :: r.text⟩

/-- The machine between two characters, after an octet. -/
def Reader.start (r : Reader) (b : Nat) : Reader :=
  match lead b with
  | .whole c => r.emit c
  | .first p => ⟨some p, r.text⟩
  | .stray => r.emit replacement

/-- The machine after an octet. One that the character begun does not allow ends it as a replacement
and is then read as the first of a character itself. -/
def Reader.step (r : Reader) (octet : UInt8) : Reader :=
  let b := octet.toNat
  match r.begun with
  | none => r.start b
  | some p =>
    if p.allows b then
      match p.later with
      | 0 => r.emit (Char.ofNat (p.extend b))
      | n + 1 => ⟨some ⟨p.extend b, n, 0x80, 0xBF⟩, r.text⟩
    else (r.emit replacement).start b

/-- The text read, when no octet is left. -/
def Reader.finish (r : Reader) : List Char :=
  match r.begun with
  | none => r.text.reverse
  | some _ => (replacement :: r.text).reverse

/-- The text of the octets, with U+FFFD for what is not UTF-8. -/
def decode (bs : List UInt8) : List Char :=
  (bs.foldl Reader.step {}).finish

@[simp] theorem encode_nil : encode [] = [] := rfl

@[simp] theorem encode_cons (c : Char) (s : List Char) :
    encode (c :: s) = String.utf8EncodeChar c ++ encode s := rfl

@[simp] theorem encode_append (s t : List Char) : encode (s ++ t) = encode s ++ encode t := by
  simp [encode]

end CallAtlas.Text.Utf8

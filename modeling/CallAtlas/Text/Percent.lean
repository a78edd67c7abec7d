import CallAtlas.Text.Hex
import CallAtlas.Text.Utf8

/-!
# Percent-encoding

- `encode`: each octet of a text's UTF-8 form that is not one of the unreserved characters
  (letters, digits, `_`, `.`, `-`, `~`) becomes `%` and two upper case hexadecimal digits.
- `decode`: each run of such triples (digits of either case) is read as UTF-8, with U+FFFD for what
  is not; everything else stays, a `%` without two digits after it included.

A run is decoded as a whole, so a character whose octets are only in part written as triples does not
come together.
-/

namespace CallAtlas.Text.Percent

open Hex (upperDigit digitValue?)

/-- The characters that stand for themselves. -/
def isUnreserved (c : Char) : Bool :=
  c.isAlphanum || c == '_' || c == '.' || c == '-' || c == '~'

/-- An octet as a triple. -/
def triple (b : UInt8) : List Char :=
  ['%', upperDigit (b.toNat / 16), upperDigit (b.toNat % 16)]

/-- A character, encoded. -/
def encodeChar (c : Char) : List Char :=
  if isUnreserved c then [c] else (String.utf8EncodeChar c).flatMap triple

/-- A text, encoded. -/
def encodeChars (s : List Char) : List Char :=
  s.flatMap encodeChar

/-- The octet of a triple's two digits. -/
def octet? (high low : Char) : Option UInt8 :=
  match digitValue? high, digitValue? low with
  | some h, some l => some (UInt8.ofNat (16 * h + l))
  | _, _ => none

/-- The text of what is left, after a run of triples with the octets `run`. -/
def decodeFrom (run : List UInt8) : List Char → List Char
  | '%' :: h :: l :: rest =>
    match octet? h l with
    | some b => decodeFrom (run ++ [b]) rest
    | none => Utf8.decode run ++ '%' :: decodeFrom [] (h :: l :: rest)
  | c :: rest => Utf8.decode run ++ c :: decodeFrom [] rest
  | [] => Utf8.decode run

/-- A text with its triples read. -/
def decodeChars (s : List Char) : List Char :=
  decodeFrom [] s

/-- A text, encoded as one segment of a path. -/
def encode (s : String) : String :=
  String.ofList (encodeChars s.toList)

/-- A text with its triples read. -/
def decode (s : String) : String :=
  String.ofList (decodeChars s.toList)

@[simp] theorem encodeChars_nil : encodeChars [] = [] := rfl

@[simp] theorem encodeChars_cons (c : Char) (s : List Char) :
    encodeChars (c :: s) = encodeChar c ++ encodeChars s := rfl

theorem encodeChars_append (s t : List Char) :
    encodeChars (s ++ t) = encodeChars s ++ encodeChars t := by
  simp [encodeChars]

@[simp] theorem toList_encode (s : String) : (encode s).toList = encodeChars s.toList := by
  simp [encode]

@[simp] theorem toList_decode (s : String) : (decode s).toList = decodeChars s.toList := by
  simp [decode]

end CallAtlas.Text.Percent

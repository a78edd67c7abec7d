import CallAtlas.Text.Cut

/-!
# Numerals

`integer?` reads an integer as a person may type it: blanks at the two ends, a sign, zeros that do not
count, and a plain number. A plain number has the decimal digits 0 to 9, at most `maxDigits` of them and
no zero in front, with single underscores between digits, and perhaps a fraction that is zero. Among the
zeros that do not count may stand any number of underscores. Where no sign is in front, a minus may
follow these zeros, and an underscore the minus.

`isWritable` tells which integers have a numeral that is short enough to be written.
-/

namespace CallAtlas.Text

/-- The value of a decimal digit. -/
def decimal? (c : Char) : Option Nat :=
  if c.isDigit then some (c.toNat - 0x30) else none

/-- The blanks that may stand around a numeral: those of `White_Space`. -/
def isNumeralBlank (c : Char) : Bool :=
  (0x09 ≤ c.toNat && c.toNat ≤ 0x0D) || c.toNat == 0x20 || c.toNat == 0x85 || c.toNat == 0xA0 ||
  c.toNat == 0x1680 || (0x2000 ≤ c.toNat && c.toNat ≤ 0x200A) || c.toNat == 0x2028 ||
  c.toNat == 0x2029 || c.toNat == 0x202F || c.toNat == 0x205F || c.toNat == 0x3000

/-- The most digits a number may have where it is read or written. -/
def maxDigits : Nat := 4300

/-- The digits of a whole number without sign; between two of them may be an underscore. -/
def digits? : List Char → Option (List Nat)
  | [] => none
  | [c] => (decimal? c).map ([·])
  | c :: '_' :: rest => do return (← decimal? c) :: (← digits? rest)
  | c :: rest => do return (← decimal? c) :: (← digits? rest)

/-- The numeral without its fraction, which may only be zero. -/
def wholePart? (s : List Char) : Option (List Char) :=
  match cutFirst '.' s with
  | none => some s
  | some (whole, fraction) =>
    if fraction ≠ [] ∧ fraction.all (· == '0') then some whole else none

/-- The number that a plain number names. -/
def natural? (s : List Char) : Option Nat := do
  let ds ← digits? (← wholePart? s)
  if ds.head? = some 0 ∧ ds.length ≠ 1 then none
  else if maxDigits < ds.length then none
  else some (ds.foldl (fun n d => 10 * n + d) 0)

/-- The integer below zero, or zero, that a plain number after a minus names. -/
def negative? (s : List Char) : Option Int :=
  (natural? s).map fun n => -(n : Int)

/-- What follows the zeros and underscores at the start of a text. The last of them, or `last` if there is
none, is kept where no number follows. -/
def dropFillers (last : Char) : List Char → List Char
  | [] => [last]
  | c :: rest =>
    if c = '0' ∨ c = '_' then dropFillers c rest
    else if c = '.' then last :: c :: rest
    else c :: rest

/-- The numeral without the zeros in front of it that do not count. -/
def dropZeros : List Char → List Char
  | '0' :: rest => dropFillers '0' rest
  | s => s

/-- The integer that a numeral without a sign in front names. -/
def unsigned? (s : List Char) : Option Int :=
  match dropZeros s with
  | '-' :: '_' :: rest => negative? rest
  | '-' :: rest => negative? rest
  | rest => (natural? rest).map Int.ofNat

/-- The integer that the text names. -/
def integer? (s : String) : Option Int :=
  match trim isNumeralBlank s.toList with
  | '-' :: rest => negative? (dropZeros rest)
  | '+' :: '-' :: _ => none
  | '+' :: rest => unsigned? rest
  | rest => unsigned? rest

example : integer? " -1_0 " = some (-10) ∧ integer? "+1.00" = some 1 ∧ integer? "1__0" = none ∧
    integer? "1." = none := by
  decide +kernel

example : integer? "0__1" = some 1 ∧ integer? "00_-_2" = some (-2) ∧ integer? "0-02" = none ∧
    integer? "-0__2" = some (-2) ∧ integer? "0_" = none ∧ integer? "0_.0" = none := by
  decide +kernel

/-- Whether the number has at most `maxDigits` digits. -/
def isWritable (n : Int) : Bool :=
  n.natAbs < Nat.pow 10 maxDigits

/-- A number is not written, because it has more than `maxDigits` digits. -/
inductive NumeralError where
  | tooLong
  deriving DecidableEq, Repr

/-- The error in words. -/
def NumeralError.message : NumeralError → String
  | .tooLong =>
    "Exceeds the limit (" ++ toString maxDigits ++ " digits) for integer string conversion; " ++
      "use sys.set_int_max_str_digits() to increase the limit"

end CallAtlas.Text

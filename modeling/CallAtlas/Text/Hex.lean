/-!
# Hexadecimal digits

- `upperDigit`, `lowerDigit`: the digit of a value below 16.
- `digitValue?`: the value of a digit of either case; it reads back what both write.
- `hexDigits width n`: the last `width` digits of `n`, in lower case.
-/

namespace CallAtlas.Text.Hex

/-- The digit of a value below 16, in upper case. -/
def upperDigit (n : Nat) : Char :=
  if n < 10 then Char.ofNat (0x30 + n) else Char.ofNat (0x37 + n)

/-- The digit of a value below 16, in lower case. -/
def lowerDigit (n : Nat) : Char :=
  if n < 10 then Char.ofNat (0x30 + n) else Char.ofNat (0x57 + n)

/-- The value of a digit of either case. -/
def digitValue? (c : Char) : Option Nat :=
  let n := c.toNat
  if 0x30 ≤ n ∧ n ≤ 0x39 then some (n - 0x30)
  else if 0x41 ≤ n ∧ n ≤ 0x46 then some (n - 0x37)
  else if 0x61 ≤ n ∧ n ≤ 0x66 then some (n - 0x57)
  else none

/-- The last `width` digits of a number. -/
def hexDigits (width n : Nat) : List Char :=
  match width with
  | 0 => []
  | w + 1 => hexDigits w (n / 16) ++ [lowerDigit (n % 16)]

theorem digitValue?_upperDigit : ∀ n < 16, digitValue? (upperDigit n) = some n := by
  decide

theorem digitValue?_lowerDigit : ∀ n < 16, digitValue? (lowerDigit n) = some n := by
  decide

theorem length_hexDigits (width n : Nat) : (hexDigits width n).length = width := by
  induction width generalizing n with
  | zero => rfl
  | succ w ih => simp [hexDigits, ih]

end CallAtlas.Text.Hex

import CallAtlas.Console.CellTable

/-!
# The width of a text

- `cellWidth`: how many cells a character takes by itself;
- `textWidth`: how many cells a text takes. That is the sum over its characters, save that a joiner
  glues the next character to what stands before it, and that a selector gives an emoji its coloured
  form.
- `textWidth_append_replicate`: blanks after a blank take a cell each, whatever stands before.
-/

namespace CallAtlas.Console

/-- Whether the character is in one of the ranges. -/
def isWithin (ranges : List (Nat × Nat)) (c : Char) : Bool :=
  ranges.any fun r => r.1 ≤ c.toNat && c.toNat ≤ r.2

/-- How many cells the character takes. -/
def cellWidth (c : Char) : Nat :=
  if isWithin zeroRanges c then 0 else if isWithin wideRanges c then 2 else 1

/-- The character that glues the next one to the one before. -/
def joiner : Char := '\u200d'

/-- The character that asks for the coloured form of the one before. -/
def colourSelector : Char := '\ufe0f'

/-- The cells of what follows a part of a text: `joined` tells whether that part ends with a joiner,
and `plain` whether the last character that takes cells there is an emoji in its plain form. -/
def textWidthFrom : (joined plain : Bool) → List Char → Nat
  | _, _, [] => 0
  | true, plain, _ :: rest => textWidthFrom false plain rest
  | false, plain, c :: rest =>
    if c = joiner then textWidthFrom true plain rest
    else if c = colourSelector then plain.toNat + textWidthFrom false false rest
    else if cellWidth c = 0 then textWidthFrom false plain rest
    else cellWidth c + textWidthFrom false (isWithin plainEmojiRanges c) rest

/-- How many cells the text takes. -/
def textWidth (s : List Char) : Nat :=
  textWidthFrom false false s

example : cellWidth 'a' = 1 ∧ cellWidth '日' = 2 ∧ cellWidth '\u0301' = 0 := by
  decide +kernel

example : textWidth ['a', joiner, 'b', '❤', '\u0301', colourSelector, colourSelector] = 3 := by
  decide +kernel

theorem cellWidth_blank : cellWidth ' ' = 1 := by
  decide +kernel

theorem textWidthFrom_blank (plain : Bool) (rest : List Char) :
    textWidthFrom false plain (' ' :: rest) =
      1 + textWidthFrom false (isWithin plainEmojiRanges ' ') rest := by
  simp [textWidthFrom, cellWidth_blank, joiner, colourSelector]

theorem textWidthFrom_replicate (plain : Bool) (n : Nat) :
    textWidthFrom false plain (List.replicate n ' ') = n := by
  induction n generalizing plain with
  | zero => rfl
  | succ n ih => rw [List.replicate_succ, textWidthFrom_blank, ih, Nat.add_comm]

theorem textWidthFrom_append_replicate (joined plain : Bool) (s : List Char) (n : Nat) :
    textWidthFrom joined plain (s ++ ' ' :: List.replicate n ' ') =
      textWidthFrom joined plain (s ++ [' ']) + n := by
  induction s generalizing joined plain with
  | nil =>
    cases joined with
    | true => simp [textWidthFrom, textWidthFrom_replicate]
    | false => simp [textWidthFrom_blank, textWidthFrom_replicate, textWidthFrom]
  | cons c s ih =>
    cases joined with
    | true => simpa [textWidthFrom] using ih false plain
    | false =>
      simp only [List.cons_append, textWidthFrom, ih]
      repeat' split
      all_goals omega

/-- Blanks after a blank take a cell each. -/
theorem textWidth_append_replicate (s : List Char) (n : Nat) :
    textWidth (s ++ ' ' :: List.replicate n ' ') = textWidth (s ++ [' ']) + n :=
  textWidthFrom_append_replicate false false s n

end CallAtlas.Console

import CallAtlas.Console.CellWidth
import CallAtlas.Console.Emoji
import CallAtlas.Console.Markup

/-!
# Lines on a console

`shown` gives what a console line in markup shows where styles are not: codes of emoji are replaced,
characters that would move the cursor are left out, and tabs are filled up with blanks to the next
column that is a multiple of eight. `tabSize_dvd_textWidth_field` says that each tab ends at such a column.
-/

namespace CallAtlas.Console

/-- Whether a character moves the cursor or rings the bell: bell, backspace, vertical tab, form feed and
carriage return. -/
def movesCursor (c : Char) : Bool :=
  c.toNat == 0x07 || c.toNat == 0x08 || c.toNat == 0x0B || c.toNat == 0x0C || c.toNat == 0x0D

/-- The distance between tab stops. -/
def tabSize : Nat := 8

/-- What a stretch of a line up to a tab shows: the tab is one blank, and then as many as it takes to the
next tab stop. The stretch starts at a tab stop. -/
def field (s : List Char) : List Char :=
  let beyond := textWidth (s ++ [' ']) % tabSize
  s ++ ' ' :: List.replicate ((tabSize - beyond) % tabSize) ' '

/-- The fields of a line, the last of which ends with the line and not at a tab. -/
def joinFields : List (List Char) → List Char
  | [] => []
  | [last] => last
  | s :: rest => field s ++ joinFields rest

/-- The lines, with their tabs filled up. -/
def expandTabs (s : List Char) : List Char :=
  ['\n'].intercalate ((Text.pieces '\n' s).map fun line => joinFields (Text.pieces '\t' line))

/-- What a line in markup shows. -/
def shown (line : String) : String :=
  String.ofList (expandTabs ((unmarked expandEmoji line.toList).filter (!movesCursor ·)))

example : shown ("[cyan]" ++ escape "a[b]\\" ++ "[/]\tc") = "a[b]\\   c" := by
  decide +kernel

/-- A field ends at a tab stop. -/
theorem tabSize_dvd_textWidth_field (s : List Char) : tabSize ∣ textWidth (field s) := by
  simp only [field, textWidth_append_replicate, tabSize]
  omega

end CallAtlas.Console

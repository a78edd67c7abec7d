import CallAtlas.Text.Cut

/-!
# Markup of console lines

A tag is a name between brackets, such as `[bold]` or `[/]`, that starts or ends a style. A name starts
with a letter from a to z or one of `#`, `/`, `@`, and has no bracket in it. Backslashes may stand before a
tag: each two of them show as one, and one left over makes the tag a part of the text. Elsewhere a
backslash is shown, save one before an opening bracket.

- `pieces`: a marked up text, cut at its tags; `written_pieces`: nothing is lost;
- `escape`: a text, written so that none of its parts is a tag;
- `unmarked`: the characters that a marked up text shows, where styles are not shown.
-/

namespace CallAtlas.Console

/-- A part of a marked up text. -/
inductive Piece where
  /-- Characters among which there is no tag. -/
  | text (s : List Char)
  /-- A tag, after some backslashes. -/
  | tag (backslashes : Nat) (name : List Char)
  deriving DecidableEq, Repr

/-- A run of backslashes. -/
def slashes (n : Nat) : List Char :=
  List.replicate n '\\'

/-- A name between brackets. -/
def bracketed (name : List Char) : List Char :=
  '[' :: name ++ [']']

/-- The piece as it is written. -/
def Piece.written : Piece → List Char
  | .text s => s
  | .tag backslashes name => slashes backslashes ++ bracketed name

/-- Whether a tag's name may start so. -/
def startsTag (c : Char) : Bool :=
  c.isLower || c == '#' || c == '/' || c == '@'

/-- The name of the tag that an opening bracket before these characters starts. -/
def tagName? : List Char → Option (List Char)
  | [] => none
  | c :: rest =>
    if startsTag c then
      match Text.cutFirst ']' rest with
      | some (name, _) => if name.contains '[' then none else some (c :: name)
      | none => none
    else none

/-- Puts characters in front of the first text. -/
def withText (s : List Char) : List Piece → List Piece
  | .text t :: ps => .text (s ++ t) :: ps
  | ps => .text s :: ps

/-- The pieces of what follows some backslashes and the next `skip` characters. -/
def piecesFrom : (skip backslashes : Nat) → List Char → List Piece
  | _, n, [] => [.text (slashes n)]
  | skip + 1, n, _ :: rest => piecesFrom skip n rest
  | 0, n, c :: rest =>
    if c = '\\' then piecesFrom 0 (n + 1) rest
    else if c = '[' then
      match tagName? rest with
      | some name => .tag n name :: piecesFrom (name.length + 1) 0 rest
      | none => withText (slashes n ++ [c]) (piecesFrom 0 0 rest)
    else withText (slashes n ++ [c]) (piecesFrom 0 0 rest)

/-- The pieces of a marked up text. -/
def pieces (s : List Char) : List Piece :=
  piecesFrom 0 0 s

/-- A piece of a text, written so that it is no tag. -/
def Piece.escaped : Piece → List Char
  | .text s => s
  | .tag backslashes name => slashes (2 * backslashes + 1) ++ bracketed name

/-- The text with one more backslash, if it ends with just one. -/
def doubleLast (s : List Char) : List Char :=
  match s.reverse with
  | '\\' :: '\\' :: _ => s
  | '\\' :: _ => s ++ ['\\']
  | _ => s

/-- The text, written so that none of its parts is a tag. -/
def escape (s : String) : String :=
  String.ofList (doubleLast ((pieces s.toList).flatMap Piece.escaped))

/-- The characters with the backslash before each opening bracket left out. -/
def openBrackets : List Char → List Char
  | '\\' :: '[' :: rest => '[' :: openBrackets rest
  | c :: rest => c :: openBrackets rest
  | [] => []

/-- What a piece shows, if `display` gives what a stretch of characters shows. -/
def Piece.unmarked (display : List Char → List Char) : Piece → List Char
  | .text s => display (openBrackets s)
  | .tag backslashes name =>
    slashes (backslashes / 2) ++ if backslashes % 2 = 1 then display (bracketed name) else []

/-- The characters that a marked up text shows, if `display` gives what a stretch without tags shows. -/
def unmarked (display : List Char → List Char) (s : List Char) : List Char :=
  (pieces s).flatMap (Piece.unmarked display)

/-! ## Nothing is lost -/

theorem written_withText (s : List Char) (ps : List Piece) :
    (withText s ps).flatMap Piece.written = s ++ ps.flatMap Piece.written := by
  unfold withText
  split <;> simp [Piece.written]

theorem tagName?_eq_some {s name : List Char} (h : tagName? s = some name) :
    ∃ rest, s = name ++ ']' :: rest := by
  unfold tagName? at h
  split at h
  · simp at h
  · split at h
    · split at h
      · rename_i c _ _ before after hcut
        obtain ⟨rfl, -⟩ := Text.cutFirst_eq_some_iff.1 hcut
        split at h
        · simp at h
        · exact ⟨after, by simp [← Option.some.inj h]⟩
      · simp at h
    · simp at h

theorem written_piecesFrom (skip n : Nat) (s : List Char) :
    (piecesFrom skip n s).flatMap Piece.written = slashes n ++ s.drop skip := by
  induction s generalizing skip n with
  | nil => cases skip <;> simp [piecesFrom, Piece.written]
  | cons c rest ih =>
    cases skip with
    | succ skip => simp [piecesFrom, ih]
    | zero =>
      unfold piecesFrom
      split
      · subst_vars
        simp [ih, slashes, List.replicate_succ']
      · split
        · split
          · rename_i name hname
            obtain ⟨after, rfl⟩ := tagName?_eq_some hname
            subst_vars
            simp [ih, Piece.written, bracketed, slashes]
          · simp [written_withText, ih, slashes]
        · simp [written_withText, ih, slashes]

/-- The pieces of a text, written one after the other, are the text. -/
theorem written_pieces (s : List Char) : (pieces s).flatMap Piece.written = s := by
  simp [pieces, written_piecesFrom, slashes]

end CallAtlas.Console

import ComponentCensus.Text.Blank
import ComponentCensus.Text.Width

/-!
# Layout of console lines

What becomes of a rendered text on its way to the console.

* `withoutControls` — characters that would move the cursor are dropped.
* `expandTabs` — a tab becomes blanks up to the next multiple of eight columns, at least one.
* `wrapLine` — a line is broken between words where the next word would pass the width; a word
  that is wider than a whole line is cut.
* `printed` — the lines of a text, each with its line end.
-/

set_option autoImplicit false

namespace ComponentCensus
namespace Console

open Text

/-- The characters that are dropped: bell, backspace, vertical tab, form feed, carriage return. -/
def isDropped (c : Char) : Bool := [7, 8, 11, 12, 13].contains c.toNat

/-- The text without the characters that would move the cursor. -/
def withoutControls (s : List Char) : List Char := s.filter fun c => !isDropped c

/-- The distance between tab stops. -/
def tabSize : Nat := 8

/-- The pieces of a line between its tabs, put together from a column on. -/
def joinAtStops (column : Nat) : List (List Char) → List Char
  | [] => []
  | [piece] => piece
  | piece :: pieces =>
    let reached := column + columns (piece ++ [' '])
    let blanks := (tabSize - reached % tabSize) % tabSize
    piece ++ ' ' :: List.replicate blanks ' ' ++ joinAtStops (reached + blanks) pieces

/-- The line with its tabs expanded. -/
def expandTabs (line : List Char) : List Char := joinAtStops 0 (splitOn '\t' line)

/-- A word: blanks, other characters, and the blanks after them. -/
structure Word where
  leading : List Char
  body : List Char
  trailing : List Char
deriving Repr, DecidableEq

namespace Word

/-- The characters of a word. -/
def text (w : Word) : List Char := w.leading ++ w.body ++ w.trailing

/-- The columns that a word needs: those of all but its trailing blanks. -/
def width (w : Word) : Nat := columns (w.leading ++ w.body)

/-- The columns of a word with its trailing blanks. -/
def fullWidth (w : Word) : Nat := columns w.text

end Word

/-- The words of a line.  Only the first can have leading blanks; blanks alone are no word. -/
def wordsFrom : (fuel : Nat) → List Char → List Word
  | 0, _ => []
  | fuel + 1, s =>
    let leading := s.takeWhile isBlank
    let s := s.dropWhile isBlank
    let body := s.takeWhile fun c => !isBlank c
    let s := s.dropWhile fun c => !isBlank c
    let trailing := s.takeWhile isBlank
    if body.isEmpty then [] else ⟨leading, body, trailing⟩ :: wordsFrom fuel (s.dropWhile isBlank)

/-- The words of a line. -/
def wordsOfLine (s : List Char) : List Word := wordsFrom s.length s

/-- Pieces with one more character at the front of the first one. -/
def consFirst (c : Char) : List (List Char) → List (List Char)
  | [] => [[c]]
  | piece :: pieces => (c :: piece) :: pieces

/-- The text cut into pieces that are as long as the width allows, the first of which continues a
piece of `used` columns. -/
def chop (width used : Nat) : List Char → List (List Char)
  | [] => [[]]
  | c :: s =>
    if width < used + columnsOf c then [] :: consFirst c (chop width (columnsOf c) s)
    else consFirst c (chop width (used + columnsOf c) s)

/-- The lines of some words, given the text that is already on the line and the columns that count
as used.  The first of the lines is the one that the words are added to. -/
def layWords (width : Nat) (line : List Char) (used : Nat) : List Word → List (List Char)
  | [] => [line]
  | w :: ws =>
    if w.width + used ≤ width then layWords width (line ++ w.text) (used + w.fullWidth) ws
    else if width < w.width then
      let pieces := chop width 0 w.text
      let last := pieces.getLast?.getD []
      let full := pieces.dropLast
      if line.isEmpty then full ++ layWords width last (columns last) ws
      else line :: full ++ layWords width last (columns last) ws
    else line :: layWords width w.text w.fullWidth ws

/-- A line without the trailing blanks that stand beyond as many characters as the width has
columns. -/
def cropBlanks (width : Nat) (s : List Char) : List Char :=
  let blanks := (s.reverse.takeWhile isBlank).length
  s.take (s.length - min blanks (s.length - width))

/-- A line cut at the width; half a character is shown as a blank. -/
def cropColumns (width : Nat) : List Char → List Char
  | [] => []
  | c :: s =>
    if columnsOf c ≤ width then c :: cropColumns (width - columnsOf c) s
    else List.replicate width ' '

/-- A line broken to a width. -/
def wrapLine (width : Nat) (s : List Char) : List (List Char) :=
  let lines := match wordsOfLine s with
    | [] => [s]
    | ws => layWords width [] 0 ws
  lines.map fun line => cropColumns width (cropBlanks width line)

/-- The lines that a rendered text takes on the console, broken if there is a width. -/
def screenLines (width : Option Nat) (s : List Char) : List (List Char) :=
  (splitOn '\n' (withoutControls s)).flatMap fun line =>
    let line := expandTabs line
    match width with
    | none => [line]
    | some w => wrapLine w line

/-- What is printed for a rendered text. -/
def printed (width : Option Nat) (s : List Char) : List Char :=
  (screenLines width s).flatMap (· ++ ['\n'])

end Console
end ComponentCensus

/-!
# Blank characters

The characters that count as white space in component sources, directory lists and reports: the
control characters that move the cursor or separate records, and the Unicode separators.  The
class is a finite list of code points, so every question about it is settled by evaluation.

* `isBlank` — membership in the class.
* `trim` — a text without the blanks at its two ends.
* `splitOn` — the pieces of a text between the occurrences of one character; there is always at
  least one piece.
-/

set_option autoImplicit false

namespace ComponentCensus
namespace Text

/-- The code points of the blank characters, in order. -/
def blankCodes : List Nat :=
  [9, 10, 11, 12, 13, 28, 29, 30, 31, 32, 133, 160, 5760, 8192, 8193, 8194, 8195, 8196, 8197,
   8198, 8199, 8200, 8201, 8202, 8232, 8233, 8239, 8287, 12288]

/-- A blank character. -/
def isBlank (c : Char) : Bool := blankCodes.contains c.toNat

/-- The text without its leading blanks. -/
def trimLeft (s : List Char) : List Char := s.dropWhile isBlank

/-- The text without its trailing blanks. -/
def trimRight (s : List Char) : List Char := (trimLeft s.reverse).reverse

/-- The text without the blanks at both ends. -/
def trim (s : List Char) : List Char := trimRight (trimLeft s)

/-- The pieces of `s` between the occurrences of `sep`, in order. -/
def splitOn (sep : Char) : List Char → List (List Char)
  | [] => [[]]
  | c :: s =>
    if c = sep then [] :: splitOn sep s
    else match splitOn sep s with
      | [] => [[c]]
      | piece :: pieces => (c :: piece) :: pieces

/-- There is always a first piece. -/
theorem splitOn_ne_nil (sep : Char) (s : List Char) : splitOn sep s ≠ [] := by
  cases s with
  | nil => simp [splitOn]
  | cons c s =>
    unfold splitOn
    split
    · simp
    · split <;> simp

/-- A separator at the front opens an empty piece. -/
@[simp] theorem splitOn_cons_sep (sep : Char) (s : List Char) :
    splitOn sep (sep :: s) = [] :: splitOn sep s := by
  simp [splitOn]

/-- What is left after trimming on the left starts with no blank. -/
theorem isBlank_of_mem_head?_trimLeft {s : List Char} {c : Char} (h : (trimLeft s).head? = some c) :
    isBlank c = false := by
  induction s with
  | nil => simp [trimLeft] at h
  | cons d s ih =>
    by_cases hd : isBlank d = true
    · exact ih (by simpa [trimLeft, hd] using h)
    · simp only [trimLeft, List.dropWhile_cons, hd, Bool.false_eq_true, if_false,
        List.head?_cons, Option.some.injEq] at h
      simpa [← h] using hd

end Text
end ComponentCensus

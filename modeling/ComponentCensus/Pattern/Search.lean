import ComponentCensus.Pattern.Basic
import ComponentCensus.Text.Word

/-!
# Looking for a pattern in a text

* `Pattern.restsAt` — what may follow if the pattern is read at one place, given the character
  before it.
* `Pattern.occursIn` — whether the pattern fits anywhere.
* `Pattern.matchesIn` — the stretches found from left to right, each search going on where the
  last stretch ended; `Pattern.firstIn?` is the first of them.  A stretch is never empty.
* `Pattern.textBefore?` — the text up to the first place where the pattern fits.
-/

set_option autoImplicit false

namespace ComponentCensus

open Text

/-- Whether a word may begin after the given character. -/
def wordMayStart (before : Option Char) : Bool := !before.any isWord

namespace Pattern

/-- What a text may go on with after the pattern, read at its front; `before` is the character in
front of the text. -/
def restsAt (p : Pattern) (before : Option Char) (s : List Char) : List (List Char) :=
  if p.startsWord && !wordMayStart before then [] else p.choices.flatMap (restsOf · s)

/-- Whether the pattern fits somewhere in a text that comes after the character `before`. -/
def occursAfter (p : Pattern) (before : Option Char) : List Char → Bool
  | [] => !(p.restsAt before []).isEmpty
  | c :: s => !(p.restsAt before (c :: s)).isEmpty || p.occursAfter (some c) s

/-- Whether the pattern fits somewhere in the text. -/
def occursIn (p : Pattern) (s : List Char) : Bool := p.occursAfter none s

/-- The length of the stretch that the pattern takes at the front of a text. -/
def lengthAt? (p : Pattern) (before : Option Char) (s : List Char) : Option Nat :=
  (p.restsAt before s).head?.map fun rest => s.length - rest.length

/-- The stretches found from left to right after `skip` characters, which belong to the stretch
found before them. -/
def matchesAfter (p : Pattern) (before : Option Char) : (skip : Nat) → List Char →
    List (List Char)
  | _, [] => []
  | skip + 1, c :: s => p.matchesAfter (some c) skip s
  | 0, c :: s =>
    match p.lengthAt? before (c :: s) with
    | some (n + 1) => (c :: s).take (n + 1) :: p.matchesAfter (some c) n s
    | _ => p.matchesAfter (some c) 0 s

/-- The stretches that fit the pattern, from left to right and without overlap. -/
def matchesIn (p : Pattern) (s : List Char) : List (List Char) := p.matchesAfter none 0 s

/-- The first stretch that fits the pattern. -/
def firstIn? (p : Pattern) (s : List Char) : Option (List Char) := (p.matchesIn s).head?

/-- The text in front of the first place where the pattern fits. -/
def textBefore? (p : Pattern) (before : Option Char) : List Char → Option (List Char)
  | [] => if (p.restsAt before []).isEmpty then none else some []
  | c :: s =>
    if (p.restsAt before (c :: s)).isEmpty then (p.textBefore? (some c) s).map (c :: ·)
    else some []

end Pattern
end ComponentCensus

/-!
# Letters in either case

Most signals are looked for without regard to the case of letters.  Two characters match if they
are the same letter up to case; besides the ASCII pairs, four characters of Unicode fold to an
ASCII letter: the long s (U+017F) to `s`, the dotted capital I (U+0130) and the dotless i (U+0131)
to `i`, and the Kelvin sign (U+212A) to `k`.

* `foldCase` — the representative of a character's class.
* `sameLetter` — equality up to case.
-/

set_option autoImplicit false

namespace ComponentCensus
namespace Text

/-- The lower-case ASCII letter that a character folds to; any other character stands for
itself. -/
def foldCase (c : Char) : Char :=
  match c.toNat with
  | 0x17F => 's'
  | 0x130 => 'i'
  | 0x131 => 'i'
  | 0x212A => 'k'
  | _ => c.toLower

/-- Equality up to case. -/
def sameLetter (a b : Char) : Bool := foldCase a == foldCase b

/-- The text with every ASCII capital replaced by its small letter. -/
def lowerAscii (s : String) : String := String.ofList (s.toList.map Char.toLower)

end Text
end ComponentCensus

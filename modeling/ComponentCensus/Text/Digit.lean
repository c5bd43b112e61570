/-!
# Decimal digits

Every script with a decimal notation has its own ten digits, and each of them counts as a digit
where a number is read.  The ten digits of a script have neighbouring code points.

* `zeroCodes` — the code points of the zeros of Unicode 14.
* `digitOf?` — the value of a digit.
-/

set_option autoImplicit false

namespace ComponentCensus
namespace Text

/-- The code points of the zeros, in order. -/
def zeroCodes : List Nat :=
  [48, 1632, 1776, 1984, 2406, 2534, 2662, 2790, 2918, 3046, 3174, 3302, 3430, 3558, 3664, 3792,
   3872, 4160, 4240, 6112, 6160, 6470, 6608, 6784, 6800, 6992, 7088, 7232, 7248, 42528, 43216,
   43264, 43472, 43504, 43600, 44016, 65296, 66720, 68912, 69734, 69872, 69942, 70096, 70384, 70736,
   70864, 71248, 71360, 71472, 71904, 72016, 72784, 73040, 73120, 92768, 92864, 93008, 120782,
   120792, 120802, 120812, 120822, 123200, 123632, 125264, 130032]

/-- The value of a character as a decimal digit. -/
def digitOf? (c : Char) : Option Nat :=
  (zeroCodes.find? fun z => z ≤ c.toNat && c.toNat < z + 10).map (c.toNat - ·)

/-- A decimal digit. -/
def isDigit (c : Char) : Bool := (digitOf? c).isSome

/-- The value of a row of decimal digits; other characters count as zeros. -/
def valueOfDigits (ds : List Char) : Nat :=
  ds.foldl (fun n c => 10 * n + (digitOf? c).getD 0) 0

end Text
end ComponentCensus

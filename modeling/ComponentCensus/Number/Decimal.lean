import ComponentCensus.Number.Binary64

/-!
# Decimal texts of binary numbers

Reading and writing of `Binary64` in decimal notation.

* `Binary64.ofDecimal` — the number nearest to a decimal.
* `Binary64.ofText?` — the number that a text denotes: an optional sign, digits, an optional
  fraction and exponent, or one of the names `inf` and `nan`.
* `Binary64.shortest` — the fewest decimal digits that read back to a number, and of those the
  nearest to it.
* `Binary64.text` — those digits laid out: positional from `10^-4` up to `10^16`, with at least
  one digit on each side of the point; otherwise with a signed exponent of two digits or more.
-/

set_option autoImplicit false

namespace ComponentCensus
namespace Number
namespace Binary64

/-- The decimal digits of a natural number. -/
def digitsOf (n : Nat) : List Char := (toString n).toList

/-- The number nearest to `± coefficient · 10 ^ exponent`.  Decimals far outside the range of the
format are settled by their size alone. -/
def ofDecimal (negative : Bool) (coefficient : Nat) (exponent : Int) : Binary64 :=
  let size : Int := (digitsOf coefficient).length + exponent
  if coefficient = 0 then finite negative 0 minExponent
  else if 400 < size then infinite negative
  else if size < -400 then finite negative 0 minExponent
  else ofRatio negative (coefficient * power 10 exponent) (power 10 (-exponent))

/-- The value of a row of decimal digits. -/
def digitsValue (ds : List Char) : Nat :=
  ds.foldl (fun n c => 10 * n + (c.toNat - 48)) 0

/-- The sign in front of a text, and the text after it. -/
def takeSign : List Char → Bool × List Char
  | '-' :: s => (true, s)
  | '+' :: s => (false, s)
  | s => (false, s)

/-- The number denoted by an exponent part, which may be missing. -/
def exponentValue? : List Char → Option Int
  | [] => some 0
  | e :: s =>
    let (negative, ds) := takeSign s
    if (e = 'e' || e = 'E') && !ds.isEmpty && ds.all Char.isDigit then
      some (if negative then -(digitsValue ds : Int) else digitsValue ds)
    else none

/-- The number that a text denotes. -/
def ofText? (text : List Char) : Option Binary64 :=
  let (negative, s) := takeSign text
  if s = "inf".toList then some (infinite negative)
  else if s = "nan".toList then some nan
  else
    let whole := s.takeWhile Char.isDigit
    let tail := s.dropWhile Char.isDigit
    let (fraction, tail) := match tail with
      | '.' :: tail => (tail.takeWhile Char.isDigit, tail.dropWhile Char.isDigit)
      | tail => ([], tail)
    if whole.isEmpty then none
    else (exponentValue? tail).map fun e =>
      ofDecimal negative (digitsValue (whole ++ fraction)) (e - fraction.length)

/-- The count of digits in front of the point of the positive value `m · 2 ^ e`; a value below
one tenth has a negative count. -/
def pointPosition (m : Nat) (e : Int) : Int :=
  (digitsOf (m * power 2 e * Nat.pow 10 340 / power 2 (-e))).length - 340

/-- Whether the decimal `d · 10 ^ q` reads back to `m · 2 ^ e`: it lies between the midpoints to
the two neighbours, and may be a midpoint only if the significand is even. -/
def readsBack (m : Nat) (e : Int) (d : Nat) (q : Int) : Bool :=
  let belowGap := if m = Nat.pow 2 52 && minExponent < e then 1 else 2
  let scale := power 2 e * power 10 (-q)
  let x := 4 * d * power 10 q * power 2 (-e)
  let low := (4 * m - belowGap) * scale
  let high := (4 * m + 2) * scale
  if m % 2 = 0 then low ≤ x && x ≤ high else low < x && x < high

/-- The coefficient of `count` digits nearest to `m · 2 ^ e` among those that read back, if there
is one, with the exponent of its last digit. -/
def nearestOf (m : Nat) (e : Int) (count : Nat) : Option (Nat × Int) :=
  let q := pointPosition m e - count
  let num := m * power 2 e * power 10 (-q)
  let den := power 2 (-e) * power 10 q
  let near := roundDiv num den
  let floor := num / den
  let far := if near = floor then floor + 1 else floor
  if readsBack m e near q then some (near, q)
  else if readsBack m e far q then some (far, q)
  else none

/-- The coefficient without trailing zeros, and its exponent. -/
def stripZeros : (fuel d : Nat) → Int → Nat × Int
  | 0, d, q => (d, q)
  | fuel + 1, d, q => if d ≠ 0 && d % 10 = 0 then stripZeros fuel (d / 10) (q + 1) else (d, q)

/-- The shortest decimal that reads back to the positive value `m · 2 ^ e`. -/
def shortest (m : Nat) (e : Int) : Nat × Int :=
  let found := (List.range 17).findSome? fun i => nearestOf m e (i + 1)
  let (d, q) := found.getD (m * power 2 e, 0)
  stripZeros 20 d q

/-- A row of zeros. -/
def zeros (n : Int) : List Char := List.replicate n.toNat '0'

/-- An exponent with its sign and at least two digits. -/
def exponentText (x : Int) : List Char :=
  let digits := digitsOf x.natAbs
  (if x < 0 then '-' else '+') :: (zeros (2 - digits.length) ++ digits)

/-- The layout of the digits `ds`, the point standing after the first `point` of them. -/
def layOut (ds : List Char) (point : Int) : List Char :=
  let count : Int := ds.length
  if -3 ≤ point && point ≤ 16 then
    if point ≤ 0 then '0' :: '.' :: (zeros (-point) ++ ds)
    else if count ≤ point then ds ++ zeros (point - count) ++ ['.', '0']
    else ds.take point.toNat ++ '.' :: ds.drop point.toNat
  else
    let fraction := match ds.drop 1 with
      | [] => []
      | rest => '.' :: rest
    ds.take 1 ++ fraction ++ 'e' :: exponentText (point - 1)

/-- The text of a number. -/
def text : Binary64 → String
  | finite negative m e =>
    if m = 0 then signText negative ++ "0.0"
    else
      let (d, q) := shortest m e
      let ds := digitsOf d
      signText negative ++ String.ofList (layOut ds (ds.length + q))
  | infinite negative => signText negative ++ "inf"
  | nan => "nan"

end Binary64
end Number
end ComponentCensus

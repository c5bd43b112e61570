/-!
# Binary numbers of 64 bits

The real numbers of settings and percentages are kept as exact values `± m · 2^e` with a
significand of at most 53 bits, so that every operation here is arithmetic on natural numbers.

* `roundDiv` — a quotient of natural numbers rounded to the nearest one, a half to the even
  neighbour.
* `Binary64.ofRatio` — the number of the format nearest to a quotient; every other operation is
  this one applied to an exact result.
* `Binary64.fixed` — a number written with a set count of decimal places, rounded from its exact
  value.
-/

set_option autoImplicit false

namespace ComponentCensus
namespace Number

/-- The quotient rounded to the nearest natural number; a half goes to the even neighbour. -/
def roundDiv (num den : Nat) : Nat :=
  let q := num / den
  let r := num % den
  if 2 * r < den then q
  else if den < 2 * r then q + 1
  else if q % 2 = 0 then q else q + 1

/-- A rounded quotient is one of the two neighbours of the exact one. -/
theorem roundDiv_eq_or (num den : Nat) :
    roundDiv num den = num / den ∨ roundDiv num den = num / den + 1 := by
  simp only [roundDiv]
  split
  · exact Or.inl rfl
  · split
    · exact Or.inr rfl
    · split
      · exact Or.inl rfl
      · exact Or.inr rfl

/-- An exact quotient is its own rounding. -/
theorem roundDiv_mul_left (q den : Nat) (h : 0 < den) : roundDiv (den * q) den = q := by
  have hq : den * q / den = q := Nat.mul_div_cancel_left q h
  have hr : den * q % den = 0 := Nat.mul_mod_right den q
  simp [roundDiv, hq, hr, h]

/-- A number of the 64-bit binary format. -/
inductive Binary64 where
  /-- `± significand · 2 ^ exponent`. -/
  | finite (negative : Bool) (significand : Nat) (exponent : Int)
  /-- A value beyond the largest finite one. -/
  | infinite (negative : Bool)
  /-- No number. -/
  | nan
deriving Repr, DecidableEq, Inhabited

namespace Binary64

/-- The least exponent of the format. -/
def minExponent : Int := -1074

/-- The greatest exponent of the format. -/
def maxExponent : Int := 971

/-- The first significand that is too long for the format. -/
def significandBound : Nat := Nat.pow 2 53

/-- A power of a natural number.  A negative exponent counts as zero: the factor then stands on the
other side of a quotient. -/
def power (base : Nat) (e : Int) : Nat := Nat.pow base e.toNat

/-- The exponent at which a positive quotient has a significand of 53 bits, or the least exponent
if that is greater. -/
def exponentOf (num den : Nat) : Int :=
  let k : Int := (Nat.log2 num : Int) - (Nat.log2 den : Int)
  let below := num * power 2 (-k) < den * power 2 k
  max (if below then k - 53 else k - 52) minExponent

/-- The quotient in units of `2 ^ e`, rounded. -/
def significandAt (num den : Nat) (e : Int) : Nat :=
  roundDiv (num * power 2 (-e)) (den * power 2 e)

/-- The number of the format nearest to `± num / den`, for a positive `den`. -/
def ofRatio (negative : Bool) (num den : Nat) : Binary64 :=
  if num = 0 then finite negative 0 minExponent
  else
    let e := exponentOf num den
    let m := significandAt num den e
    let (m, e) := if m = significandBound then (m / 2, e + 1) else (m, e)
    if maxExponent < e then infinite negative else finite negative m e

/-- A number multiplied by a natural number and rounded to the format. -/
def timesNat (x : Binary64) (k : Nat) : Binary64 :=
  match x with
  | finite negative m e => ofRatio negative (m * k * power 2 e) (power 2 (-e))
  | other => other

/-- Whether the number is zero, of either sign. -/
def isZero : Binary64 → Bool
  | finite _ m _ => m == 0
  | _ => false

/-- The sign of a text. -/
def signText (negative : Bool) : String := if negative then "-" else ""

/-- A natural number in `10 ^ -places`, written with that many decimal places. -/
def pointed (places n : Nat) : String :=
  let digits := toString (n % Nat.pow 10 places)
  let zeros := String.ofList (List.replicate (places - digits.length) '0')
  toString (n / Nat.pow 10 places) ++ "." ++ zeros ++ digits

/-- The number with a set count of decimal places, at least one, rounded from its exact value. -/
def fixed (x : Binary64) (places : Nat) : String :=
  match x with
  | finite negative m e =>
    signText negative ++
      pointed places (roundDiv (m * Nat.pow 10 places * power 2 e) (power 2 (-e)))
  | infinite negative => signText negative ++ "inf"
  | nan => "nan"

end Binary64
end Number
end ComponentCensus

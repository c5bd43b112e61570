import ComponentCensus.Number.Binary64

/-!
# Percentages

The share of a part in a whole, with two decimal places.  The quotient and its hundredfold are
each rounded to the 64-bit binary format, and the result is written from its exact value, so a
tie of the decimal text goes to the even digit.

* `percentage` — the text, or `none` if the quotient is too large for the format.
-/

set_option autoImplicit false

namespace ComponentCensus
namespace Number

/-- The quotient of two whole numbers, rounded to the format. -/
def quotient (part whole : Int) : Binary64 :=
  Binary64.ofRatio (decide (part < 0) != decide (whole < 0)) part.natAbs whole.natAbs

/-- The share of `part` in `whole` in percent; an empty whole has the share zero. -/
def percentage (part whole : Int) : Option String :=
  if whole = 0 then some "0.00%"
  else match quotient part whole with
    | .infinite _ => none
    | x => some ((x.timesNat 100).fixed 2 ++ "%")

end Number
end ComponentCensus

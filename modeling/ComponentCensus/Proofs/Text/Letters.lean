import ComponentCensus.Text.AnyCase

/-!
# Letters and their cases

Only the letters of ASCII have a second case that `Char.toLower` knows.  Every other character is
its own small letter and, but for four letters of Unicode, its own representative.

* `toLower_eq_iff`, `foldCase_eq_iff` — no letter becomes a character that is not one.
* `foldCase_toLower` — the representative of a letter does not depend on its case.
-/

set_option autoImplicit false

namespace ComponentCensus
namespace Text

/-- What holds of the characters of ASCII one after the other. -/
theorem of_ascii {P : Char → Prop} (h : ∀ n < 128, P (Char.ofNat n)) {c : Char}
    (hc : c.toNat < 128) : P c :=
  Char.ofNat_toNat c ▸ h c.toNat hc

theorem toNat_lt_of_isAlpha {c : Char} (hc : c.isAlpha = true) : c.toNat < 128 := by
  rcases (Bool.or_eq_true_iff ..).1 hc with hupper | hlower
  · have hle := UInt32.le_iff_toNat_le.1 (of_decide_eq_true hupper).2
    exact Nat.lt_of_le_of_lt hle (by decide)
  · have hle := UInt32.le_iff_toNat_le.1 (of_decide_eq_true (Bool.and_eq_true_iff.1 hlower).2)
    exact Nat.lt_of_le_of_lt hle (by decide)

/-- A letter becomes a letter when it is made small. -/
theorem isAlpha_toLower {c : Char} (hc : c.isAlpha = true) : c.toLower.isAlpha = true :=
  of_ascii (P := fun c => c.isAlpha = true → c.toLower.isAlpha = true) (by decide)
    (toNat_lt_of_isAlpha hc) hc

/-- Only letters change when they are made small. -/
theorem toLower_of_isAlpha_eq_false {c : Char} (hc : c.isAlpha = false) : c.toLower = c := by
  have hupper : c.isUpper = false := (Bool.or_eq_false_iff.1 hc).1
  exact dif_neg (of_decide_eq_false hupper)

/-- A character that is no letter is the small letter of itself alone. -/
theorem toLower_eq_iff {c d : Char} (hd : d.isAlpha = false) : c.toLower = d ↔ c = d := by
  constructor
  · rintro rfl
    cases hc : c.isAlpha with
    | true => exact absurd (isAlpha_toLower hc) (by simp [hd])
    | false => exact (toLower_of_isAlpha_eq_false hc).symm
  · rintro rfl
    exact toLower_of_isAlpha_eq_false hd

theorem foldCase_toLower (c : Char) : foldCase c.toLower = foldCase c := by
  cases hc : c.isAlpha with
  | true =>
    exact of_ascii (P := fun c => foldCase c.toLower = foldCase c) (by decide)
      (toNat_lt_of_isAlpha hc)
  | false => rw [toLower_of_isAlpha_eq_false hc]

/-- A character that is no letter and its own representative represents no other one. -/
theorem foldCase_eq_iff {c d : Char} (hd : d.isAlpha = false) (hfold : foldCase d = d) :
    foldCase c = d ↔ c = d := by
  constructor
  · unfold foldCase
    split
    case h_5 => exact (toLower_eq_iff hd).1
    all_goals
      rintro rfl
      exact absurd hd (by decide)
  · rintro rfl
    exact hfold

end Text
end ComponentCensus

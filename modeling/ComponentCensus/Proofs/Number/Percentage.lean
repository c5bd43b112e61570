import Mathlib.Algebra.GroupWithZero.Nat
import ComponentCensus.Number.Percentage

/-!
# Shares that can be written

A quotient is beyond the largest number of the format only if it is very large, and rounding does
not take it past a whole number.  So the share of a part in a whole that it does not exceed can be
written, and what is written is at most a hundred percent.

* `roundDiv_le` — a rounded quotient does not exceed a whole number that the exact one does not
  exceed.
* `Binary64.IsAtMost` — the numbers of the format from zero up to a whole number.  Rounding,
  multiplying and writing are each followed by one lemma: `Binary64.isAtMost_ofRatio`,
  `Binary64.IsAtMost.timesNat` and `Binary64.IsAtMost.exists_fixed_eq`.
* `exists_percentage_eq` — the share of a part that does not exceed the whole.
-/

set_option autoImplicit false

namespace ComponentCensus
namespace Number

theorem roundDiv_le {num den q : Nat} (h : num ≤ q * den) : roundDiv num den ≤ q := by
  rcases Nat.eq_zero_or_pos den with rfl | hden
  · obtain rfl : num = 0 := Nat.le_zero.1 h
    exact Nat.zero_le q
  · have hdiv : num / den ≤ q := Nat.div_le_of_le_mul (Nat.mul_comm q den ▸ h)
    rcases Nat.eq_or_lt_of_le hdiv with heq | hlt
    · -- the quotient is exact
      have hnum : den * q = num :=
        Nat.le_antisymm (heq ▸ Nat.mul_div_le num den) (Nat.mul_comm q den ▸ h)
      subst hnum
      exact Nat.le_of_eq (roundDiv_mul_left q den hden)
    · rcases roundDiv_eq_or num den with hround | hround
      · omega
      · omega

namespace Binary64

/-- The number is finite and lies between zero and `k`. -/
def IsAtMost (k : Nat) (x : Binary64) : Prop :=
  ∃ m e, x = .finite false m e ∧ e ≤ 0 ∧ m ≤ k * power 2 (-e)

/-- A power without a positive exponent does not count. -/
theorem power_of_nonpos (base : Nat) {e : Int} (h : e ≤ 0) : power base e = 1 := by
  rw [power, Int.toNat_of_nonpos h]
  rfl

/-- A quotient that is not too large has no positive exponent. -/
theorem exponentOf_nonpos {num den k : Nat} (hk : k ≤ 2 ^ 52) (h : num ≤ k * den) :
    exponentOf num den ≤ 0 := by
  have hlog : Nat.log2 num ≤ Nat.log2 den + 52 := by
    rcases Nat.eq_zero_or_pos num with rfl | hnum
    · simp
    · have hden : den < 2 ^ (Nat.log2 den + 1) := Nat.lt_log2_self
      have hlt : num < 2 ^ (Nat.log2 den + 53) := by
        calc num ≤ k * den := h
          _ ≤ 2 ^ 52 * den := Nat.mul_le_mul_right den hk
          _ < 2 ^ 52 * 2 ^ (Nat.log2 den + 1) := Nat.mul_lt_mul_of_pos_left hden (by decide)
          _ = 2 ^ (Nat.log2 den + 53) := by rw [← Nat.pow_add, Nat.add_comm]
      exact Nat.le_of_lt_succ ((Nat.log2_lt (Nat.ne_of_gt hnum)).2 hlt)
  simp only [exponentOf, minExponent]
  split <;> omega

theorem ofRatio_of_ne_zero {num : Nat} (h : num ≠ 0) (den : Nat) {m : Nat} {e : Int}
    (he : exponentOf num den = e) (hm : significandAt num den e = m) :
    ofRatio false num den =
      if m = significandBound then
        if maxExponent < e + 1 then .infinite false else .finite false (m / 2) (e + 1)
      else if maxExponent < e then .infinite false else .finite false m e := by
  subst he hm
  simp only [ofRatio, if_neg h]
  split
  · rfl
  · rfl

/-- Rounding does not take a quotient past a whole number. -/
theorem isAtMost_ofRatio {num den k : Nat} (hk : k ≤ 2 ^ 52) (h : num ≤ k * den) :
    (ofRatio false num den).IsAtMost k := by
  by_cases hnum : num = 0
  · exact ⟨0, minExponent, if_pos hnum, by decide, Nat.zero_le _⟩
  · obtain ⟨e, he⟩ : ∃ e, exponentOf num den = e := ⟨_, rfl⟩
    obtain ⟨m, hm⟩ : ∃ m, significandAt num den e = m := ⟨_, rfl⟩
    have hexponent : e ≤ 0 := he ▸ exponentOf_nonpos hk h
    have hsignificand : m ≤ k * power 2 (-e) := by
      rw [← hm, significandAt, power_of_nonpos 2 hexponent, Nat.mul_one]
      refine roundDiv_le ?_
      rw [Nat.mul_right_comm]
      exact Nat.mul_le_mul_right _ h
    rw [ofRatio_of_ne_zero hnum den he hm]
    by_cases hbound : m = significandBound
    · -- the significand has one bit too many, so the exponent can be raised
      have hnegative : e < 0 := by
        rcases Int.lt_or_eq_of_le hexponent with hlt | rfl
        · exact hlt
        · have hone : m ≤ k * 1 := hsignificand
          have hvalue : significandBound = 2 ^ 53 := rfl
          omega
      have hpower : power 2 (-e) = 2 * power 2 (-(e + 1)) := by
        have hsucc : (-e).toNat = (-(e + 1)).toNat + 1 := by omega
        rw [power, hsucc, power, Nat.pow_eq, Nat.pow_succ, Nat.mul_comm]
        rfl
      have hhalf : m / 2 ≤ k * power 2 (-(e + 1)) := by
        rw [hpower, Nat.mul_left_comm] at hsignificand
        exact Nat.div_le_of_le_mul hsignificand
      have hmax : ¬maxExponent < e + 1 := by simp only [maxExponent]; omega
      rw [if_pos hbound, if_neg hmax]
      exact ⟨_, _, rfl, by omega, hhalf⟩
    · have hmax : ¬maxExponent < e := by simp only [maxExponent]; omega
      rw [if_neg hbound, if_neg hmax]
      exact ⟨_, _, rfl, hexponent, hsignificand⟩

/-- Multiplying by a natural number multiplies the bound. -/
theorem IsAtMost.timesNat {x : Binary64} {k n : Nat} (h : x.IsAtMost k) (hk : k * n ≤ 2 ^ 52) :
    (x.timesNat n).IsAtMost (k * n) := by
  obtain ⟨m, e, rfl, he, hm⟩ := h
  refine isAtMost_ofRatio hk ?_
  rw [power_of_nonpos 2 he, Nat.mul_one, Nat.mul_right_comm]
  exact Nat.mul_le_mul_right n hm

/-- The number is written as a natural number of units of the last decimal place. -/
theorem IsAtMost.exists_fixed_eq {x : Binary64} {k : Nat} (h : x.IsAtMost k) (places : Nat) :
    ∃ n ≤ k * 10 ^ places, x.fixed places = pointed places n := by
  obtain ⟨m, e, rfl, he, hm⟩ := h
  refine ⟨_, roundDiv_le ?_, String.empty_append⟩
  rw [power_of_nonpos 2 he, Nat.mul_one, Nat.mul_right_comm]
  exact Nat.mul_le_mul_right _ hm

end Binary64

/-- The share of a part that does not exceed the whole is written as a number of hundredths of a
percent, at most ten thousand. -/
theorem exists_percentage_eq {part whole : Nat} (h : part ≤ whole) :
    ∃ n ≤ 10000, percentage part whole = some (Binary64.pointed 2 n ++ "%") := by
  rw [percentage]
  by_cases hwhole : (whole : Int) = 0
  · rw [if_pos hwhole]
    exact ⟨0, Nat.zero_le _, rfl⟩
  · have hquotient : (quotient part whole).IsAtMost 1 :=
      Binary64.isAtMost_ofRatio (by decide) (by simpa using h)
    obtain ⟨n, hn, hfixed⟩ := (hquotient.timesNat (n := 100) (by decide)).exists_fixed_eq 2
    refine ⟨n, hn, ?_⟩
    obtain ⟨m, e, hfinite, -⟩ := hquotient
    rw [if_neg hwhole, ← hfixed, hfinite]

/-- The share of a part that does not exceed the whole can be written. -/
theorem percentage_ne_none {part whole : Nat} (h : part ≤ whole) :
    percentage part whole ≠ none := by
  obtain ⟨n, -, hshare⟩ := exists_percentage_eq h
  rw [hshare]
  exact Option.some_ne_none _

end Number
end ComponentCensus

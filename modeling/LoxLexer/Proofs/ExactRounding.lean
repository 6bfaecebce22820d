import Mathlib.Tactic.Ring
import LoxLexer.Binary64.Rounding

/-!
# Exact rounding

Rounding depends on the ratio alone, not on how it is written as a fraction. A ratio that is the
value of a finite double is rounded to this double.
-/
namespace LoxLexer

namespace Decimal

lemma tens_add (m n : ℕ) : tens (m + n) = tens m * tens n := Nat.pow_add 10 m n

lemma tens_pos (n : ℕ) : 0 < tens n := Nat.pow_pos (by decide)

end Decimal

namespace Binary64
open Decimal

lemma twos_add (m n : ℕ) : twos (m + n) = twos m * twos n := Nat.pow_add 2 m n

lemma twos_pos (n : ℕ) : 0 < twos n := Nat.pow_pos (by decide)

lemma roundHalfEven_mul_right (num den : ℕ) {k : ℕ} (hk : 0 < k) :
    roundHalfEven (num * k) (den * k) = roundHalfEven num den := by
  have hdiv : num * k / (den * k) = num / den := Nat.mul_div_mul_right num den hk
  have hmod : num * k % (den * k) = num % den * k := Nat.mul_mod_mul_right k num den
  have hbelow : 2 * (num % den * k) < den * k ↔ 2 * (num % den) < den := by
    rw [← Nat.mul_assoc]
    exact Nat.mul_lt_mul_right hk
  have habove : den * k < 2 * (num % den * k) ↔ den < 2 * (num % den) := by
    rw [← Nat.mul_assoc]
    exact Nat.mul_lt_mul_right hk
  simp only [roundHalfEven, hdiv, hmod, hbelow, habove]

lemma roundHalfEven_mul_self (n : ℕ) {den : ℕ} (h : 0 < den) :
    roundHalfEven (n * den) den = n := by
  have hdiv : n * den / den = n := Nat.mul_div_cancel n h
  have hmod : n * den % den = 0 := Nat.mul_mod_left n den
  simp only [roundHalfEven, hdiv, hmod]
  rw [if_pos (by omega)]

/-- Numerator and denominator can have a factor in common. -/
lemma nearest_mul_right (num den : ℕ) {k : ℕ} (hk : 0 < k) :
    nearest (num * k) (den * k) = nearest num den := by
  have hscaled : num * k * twos unitPlaces = num * twos unitPlaces * k := by ring
  have hdiv : num * twos unitPlaces * k / (den * k) = num * twos unitPlaces / den :=
    Nat.mul_div_mul_right _ _ hk
  have hden : ∀ shift, den * k * twos shift = den * twos shift * k := fun shift => by ring
  simp only [nearest, hscaled, hdiv, hden, roundHalfEven_mul_right _ _ hk]

lemma exponentBit_eq : exponentBit = twos 52 := by decide

/-- The exponent field is the shift, and the fraction with its leading bit the significand. -/
lemma shift_mul_add (m : ℕ) : shift m * exponentBit + significand m = m := by
  unfold shift significand exponentBit
  split <;> omega

lemma significand_lt (m : ℕ) : significand m < 2 * exponentBit := by
  unfold significand exponentBit
  split <;> omega

lemma log2_lt_of_lt_twos {n k : ℕ} (h : n < twos (k + 1)) : n.log2 ≤ k := by
  rcases Nat.eq_zero_or_pos n with rfl | hn
  · simp
  · exact Nat.lt_succ_iff.mp ((Nat.log2_lt hn.ne').mpr h)

lemma le_log2_of_twos_le {n k : ℕ} (h : twos k ≤ n) : k ≤ n.log2 :=
  (Nat.le_log2 (Nat.ne_of_gt (Nat.lt_of_lt_of_le (twos_pos k) h))).mpr h

/-- The binade of a double can be read off its value. -/
lemma log2_units (m : ℕ) : (units m).log2 - 52 = shift m := by
  have hlt : units m < twos (52 + shift m + 1) := by
    have hsig := significand_lt m
    rw [exponentBit_eq] at hsig
    calc units m = significand m * twos (shift m) := rfl
      _ < 2 * twos 52 * twos (shift m) := Nat.mul_lt_mul_of_pos_right hsig (twos_pos _)
      _ = twos 52 * twos (shift m) * twos 1 := by
        rw [Nat.mul_comm 2, Nat.mul_right_comm]
        rfl
      _ = twos (52 + shift m + 1) := by rw [twos_add, twos_add]
  have hle := log2_lt_of_lt_twos hlt
  by_cases hm : m < exponentBit
  · have hshift : shift m = 0 := by
      unfold shift
      rw [Nat.div_eq_of_lt hm]
    omega
  · have hsig : exponentBit ≤ significand m := by
      unfold significand
      rw [if_neg hm]
      exact Nat.le_add_right _ _
    have hge : twos (52 + shift m) ≤ units m := by
      rw [twos_add, ← exponentBit_eq]
      exact Nat.mul_le_mul_right _ hsig
    have := le_log2_of_twos_le hge
    omega

/-- The value of a finite double is rounded to this double. -/
lemma nearest_units {m : ℕ} (h : m < infinity) : nearest (units m) (twos unitPlaces) = m := by
  have hunits : units m * twos unitPlaces / twos unitPlaces = units m :=
    Nat.mul_div_cancel _ (twos_pos _)
  have hround : roundHalfEven (units m * twos unitPlaces) (twos unitPlaces * twos (shift m)) =
      significand m := by
    have hvalue : units m * twos unitPlaces =
        significand m * (twos unitPlaces * twos (shift m)) := by
      unfold units
      ring
    rw [hvalue]
    exact roundHalfEven_mul_self _ (Nat.mul_pos (twos_pos _) (twos_pos _))
  simp only [nearest, hunits, log2_units, hround, shift_mul_add]
  exact Nat.min_eq_right h.le

end Binary64
end LoxLexer

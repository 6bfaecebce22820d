import LoxLexer.Proofs.NearestDouble

/-!
# Correct rounding

The value of a double is read off its fields. A number that is not negative is rounded correctly if
it goes to infinity from the overflow threshold on, and otherwise to the finite double nearest to
it, and to an even one if two are equally near. What is computed for a ratio is rounded correctly,
and larger ratios give no smaller doubles.
-/
namespace LoxLexer.Binary64

/-- The value of a finite double: the significand times the power of two that belongs to the
exponent field. The two lowest fields have the same power. -/
def value (x : Binary64) : ℚ :=
  (if x.negative then -1 else 1) *
    (significand x.magnitude * 2 ^ max 1 (x.magnitude / exponentBit) / 2 ^ 1075)

/-- The middle between the largest finite double and the power of two behind it. -/
def overflowThreshold : ℚ := 2 ^ 1024 - 2 ^ 970

/-- The double that a number which is not negative is rounded to. -/
structure RoundsTo (q : ℚ) (x : Binary64) : Prop where
  not_negative : x.negative = false
  not_nan : x.isNaN = false
  infinite_iff : x.magnitude = infinity ↔ overflowThreshold ≤ q
  nearest : q < overflowThreshold → ∀ y : Binary64, y.isFinite → |x.value - q| ≤ |y.value - q|
  even : q < overflowThreshold → ∀ y : Binary64, y.isFinite → y.value ≠ x.value →
    |y.value - q| = |x.value - q| → Even (significand x.magnitude)

lemma cast_twos (k : ℕ) : (twos k : ℚ) = 2 ^ k := Nat.cast_pow 2 k

lemma twos_cast_pos (k : ℕ) : (0 : ℚ) < twos k := Nat.cast_pos.mpr (twos_pos k)

lemma value_eq (x : Binary64) : x.value =
    (if x.negative then -1 else 1) * units x.magnitude / twos unitPlaces := by
  have hfield : max 1 (x.magnitude / exponentBit) = shift x.magnitude + 1 := by
    unfold shift
    omega
  have hplaces : (2 : ℚ) ^ 1075 = 2 ^ unitPlaces * 2 := pow_succ 2 1074
  have hpos : (2 : ℚ) ^ unitPlaces ≠ 0 := pow_ne_zero _ two_ne_zero
  rw [value, hfield, hplaces, units, Nat.cast_mul, cast_twos, cast_twos, pow_succ]
  field_simp

lemma value_of_not_negative {x : Binary64} (h : x.negative = false) :
    x.value = units x.magnitude / twos unitPlaces := by
  rw [value_eq, h]
  exact congrArg (· / (twos unitPlaces : ℚ)) (one_mul _)

/-- The distance to a double, in units. -/
lemma abs_value_sub (x : Binary64) (q : ℚ) : |x.value - q| =
    |(if x.negative then -1 else 1) * (units x.magnitude : ℚ) - q * twos unitPlaces| /
      twos unitPlaces := by
  have hpos := twos_cast_pos unitPlaces
  rw [value_eq, div_sub' hpos.ne', abs_div, abs_of_pos hpos, mul_comm q]

lemma abs_value_sub_of_not_negative {x : Binary64} (h : x.negative = false) (q : ℚ) :
    |x.value - q| = |(units x.magnitude : ℚ) - q * twos unitPlaces| / twos unitPlaces := by
  have hpos := twos_cast_pos unitPlaces
  rw [value_of_not_negative h, div_sub' hpos.ne', abs_div, abs_of_pos hpos, mul_comm q]

/-- The threshold in units, doubled, is the sum of the last finite magnitude and the next one. -/
lemma two_mul_overflowThreshold : 2 * (overflowThreshold * twos unitPlaces) =
    units (infinity - 1) + units infinity := by
  have hsum : units (infinity - 1) + units infinity + twos 2045 = twos 2099 := by decide +kernel
  have hcast := congrArg (Nat.cast : ℕ → ℚ) hsum
  rw [Nat.cast_add, Nat.cast_add, cast_twos, cast_twos] at hcast
  have hhigh : (2 : ℚ) ^ 1024 * 2 ^ 1074 * 2 = 2 ^ 2099 := by rw [← pow_add, ← pow_succ]
  have hlow : (2 : ℚ) ^ 970 * 2 ^ 1074 * 2 = 2 ^ 2045 := by rw [← pow_add, ← pow_succ]
  rw [cast_twos, overflowThreshold, eq_sub_of_add_eq hcast, ← hhigh, ← hlow, unitPlaces, sub_mul,
    mul_sub, mul_comm 2, mul_comm 2]

/-- The threshold itself is already rounded to infinity, which is even. -/
lemma inInterval_overflowThreshold : InInterval (overflowThreshold * twos unitPlaces) infinity := by
  have hthreshold := two_mul_overflowThreshold
  have hlast : infinity - 1 + 1 = infinity := rfl
  have hlt := units_lt_cast (Nat.lt_succ_self (infinity - 1))
  rw [Nat.succ_eq_add_one, hlast] at hlt
  have h := InInterval.of_above (m := infinity - 1) (s := overflowThreshold * twos unitPlaces)
  rw [hlast] at h
  exact h (by linarith) hthreshold.ge fun _ => ⟨infinity / 2, rfl⟩

lemma InInterval.overflowThreshold_le_iff {q : ℚ} {m : ℕ}
    (h : InInterval (q * twos unitPlaces) m) : overflowThreshold ≤ q ↔ infinity ≤ m := by
  rw [← mul_le_mul_iff_of_pos_right (twos_cast_pos unitPlaces)]
  constructor
  · exact inInterval_overflowThreshold.le_of_le h
  · intro hm
    obtain ⟨k, rfl⟩ : ∃ k, m = k + 1 := ⟨m - 1, by unfold infinity at hm; omega⟩
    have hthreshold := two_mul_overflowThreshold
    have hbelow := h.below_le k rfl
    have hk := units_le_cast (show infinity - 1 ≤ k by omega)
    have hk1 := units_le_cast hm
    linarith

lemma abs_neg_one_mul_sub {u s : ℚ} (hu : 0 ≤ u) (hs : 0 ≤ s) : |(-1) * u - s| = u + s := by
  rw [abs_of_nonpos (by linarith)]
  ring

/-- A sign only moves a magnitude away from a number that is not negative. -/
lemma abs_sub_le_abs_signed {u s : ℚ} (hu : 0 ≤ u) (hs : 0 ≤ s) (negative : Bool) :
    |u - s| ≤ |(if negative then -1 else 1) * u - s| := by
  cases negative with
  | false => simp
  | true =>
    rw [if_pos rfl, abs_neg_one_mul_sub hu hs, abs_le]
    constructor <;> linarith

lemma units_nonneg (m : ℕ) : (0 : ℚ) ≤ units m := Nat.cast_nonneg _

/-- Two doubles of one magnitude that are equally near have the same value. -/
lemma InInterval.zero_of_tie {s : ℚ} {m : ℕ} (h : InInterval s m) (hs : 0 ≤ s)
    (htie : |(-1) * (units m : ℚ) - s| = |(units m : ℚ) - s|) : (units m : ℚ) = 0 := by
  have hzero := h.no_nearer 0
  have hm := units_nonneg m
  rw [units_zero, Nat.cast_zero, zero_sub, abs_neg, abs_of_nonneg hs, ← htie,
    abs_neg_one_mul_sub hm hs] at hzero
  linarith

lemma InInterval.value_nearest {q : ℚ} {x : Binary64}
    (h : InInterval (q * twos unitPlaces) x.magnitude) (hq : 0 ≤ q) (hx : x.negative = false)
    (y : Binary64) : |x.value - q| ≤ |y.value - q| := by
  have hpos := twos_cast_pos unitPlaces
  have hs := mul_nonneg hq hpos.le
  rw [abs_value_sub_of_not_negative hx, abs_value_sub, div_le_div_iff_of_pos_right hpos]
  exact (h.no_nearer y.magnitude).trans (abs_sub_le_abs_signed (units_nonneg _) hs _)

lemma InInterval.value_even {q : ℚ} {x y : Binary64}
    (h : InInterval (q * twos unitPlaces) x.magnitude) (hq : 0 ≤ q) (hx : x.negative = false)
    (hne : y.value ≠ x.value) (htie : |y.value - q| = |x.value - q|) :
    Even (significand x.magnitude) := by
  have hpos := twos_cast_pos unitPlaces
  have hs := mul_nonneg hq hpos.le
  rw [even_significand_iff]
  rw [abs_value_sub_of_not_negative hx, abs_value_sub, div_left_inj' hpos.ne'] at htie
  rcases eq_or_ne y.magnitude x.magnitude with hm | hm
  · rw [value_of_not_negative hx, value_eq, hm] at hne
    rw [hm] at htie
    split_ifs at hne htie with hy
    · exact (hne (by rw [h.zero_of_tie hs htie, mul_zero])).elim
    · exact (hne (by rw [one_mul])).elim
  · have hle := abs_sub_le_abs_signed (units_nonneg y.magnitude) hs y.negative
    exact h.even_of_tie hm (le_antisymm (hle.trans htie.le) (h.no_nearer _))

/-- What lies in the interval of a magnitude is rounded to it, or to infinity beyond the finite
ones. -/
lemma InInterval.roundsTo {q : ℚ} {m : ℕ} {x : Binary64}
    (h : InInterval (q * twos unitPlaces) m) (hq : 0 ≤ q) (hx : x.negative = false)
    (hm : x.magnitude = min infinity m) : RoundsTo q x := by
  have hoverflow := h.overflowThreshold_le_iff
  have hinterval : q < overflowThreshold → InInterval (q * twos unitPlaces) x.magnitude := by
    intro hlt
    rw [← not_le, hoverflow] at hlt
    rwa [hm, min_eq_right (not_le.mp hlt).le]
  refine ⟨hx, ?_, ?_, fun hlt y _ => (hinterval hlt).value_nearest hq hx y,
    fun hlt y _ => (hinterval hlt).value_even hq hx⟩
  · rw [isNaN, hm, decide_eq_false_iff_not, Nat.not_lt]
    exact Nat.min_le_left ..
  · rw [hm, hoverflow, min_eq_left_iff]

lemma RoundsTo.isFinite_iff {q : ℚ} {x : Binary64} (h : RoundsTo q x) :
    x.isFinite ↔ q < overflowThreshold := by
  have hnan := h.not_nan
  have hinf := not_congr h.infinite_iff
  rw [isNaN, decide_eq_false_iff_not] at hnan
  rw [not_le] at hinf
  rw [isFinite, decide_eq_true_eq, ← hinf]
  omega

/-- Among the magnitudes of finite doubles none is nearer. -/
lemma RoundsTo.units_nearest {q : ℚ} {x : Binary64} (h : RoundsTo q x)
    (hlt : q < overflowThreshold) {k : ℕ} (hk : k < infinity) :
    |(units x.magnitude : ℚ) - q * twos unitPlaces| ≤
      |(units k : ℚ) - q * twos unitPlaces| := by
  have hmag := ofMagnitude_magnitude false (hk.trans infinity_lt)
  have hle := h.nearest hlt (ofMagnitude false k) (by rw [isFinite, hmag, decide_eq_true hk])
  rwa [abs_value_sub_of_not_negative h.not_negative, abs_value_sub_of_not_negative rfl, hmag,
    div_le_div_iff_of_pos_right (twos_cast_pos _)] at hle

lemma RoundsTo.even_of_tie {q : ℚ} {x : Binary64} (h : RoundsTo q x)
    (hlt : q < overflowThreshold) {k : ℕ} (hk : k < infinity) (hne : k ≠ x.magnitude)
    (htie : |(units k : ℚ) - q * twos unitPlaces| =
      |(units x.magnitude : ℚ) - q * twos unitPlaces|) : Even x.magnitude := by
  have hpos := twos_cast_pos unitPlaces
  have hmag := ofMagnitude_magnitude false (hk.trans infinity_lt)
  have hunits : (units k : ℚ) ≠ units x.magnitude :=
    Nat.cast_injective.ne (units_strictMono.injective.ne hne)
  rw [← even_significand_iff]
  refine h.even hlt (ofMagnitude false k) ?_ ?_ ?_
  · rw [isFinite, hmag, decide_eq_true hk]
  · rw [value_of_not_negative rfl, value_of_not_negative h.not_negative, hmag, Ne,
      div_left_inj' hpos.ne']
    exact hunits
  · rw [abs_value_sub_of_not_negative rfl, abs_value_sub_of_not_negative h.not_negative, hmag, htie]

/-- The other direction: a finite double that a number is rounded to has the number in its
interval. -/
lemma RoundsTo.inInterval {q : ℚ} {x : Binary64} (h : RoundsTo q x) (hlt : q < overflowThreshold) :
    InInterval (q * twos unitPlaces) x.magnitude := by
  have hfinite : x.magnitude < infinity := of_decide_eq_true (h.isFinite_iff.mpr hlt)
  have hnext := units_lt_cast (Nat.lt_succ_self x.magnitude)
  -- Infinity is no finite double, but only the overflow threshold is as near to it.
  have hlast : x.magnitude + 1 = infinity →
      2 * (q * twos unitPlaces) < units x.magnitude + units (x.magnitude + 1) := fun heq => by
    have hthreshold := two_mul_overflowThreshold
    have hs := mul_lt_mul_of_pos_right hlt (twos_cast_pos unitPlaces)
    have hm : x.magnitude = infinity - 1 := by omega
    rw [heq, hm]
    linarith
  refine ⟨?_, fun heq => ?_, fun k hk => ?_, fun k hk heq => ?_⟩
  · rcases Nat.lt_or_eq_of_le (Nat.succ_le_of_lt hfinite) with hsucc | hsucc
    · exact (abs_sub_le_iff_of_lt hnext _).mp (h.units_nearest hlt hsucc)
    · exact (hlast hsucc).le
  · rcases Nat.lt_or_eq_of_le (Nat.succ_le_of_lt hfinite) with hsucc | hsucc
    · have htie := (abs_sub_eq_iff_of_lt hnext _).mpr heq
      exact h.even_of_tie hlt hsucc (Nat.succ_ne_self _) htie.symm
    · exact ((hlast hsucc).ne heq).elim
  · have hkm : k < x.magnitude := by omega
    rw [← abs_sub_ge_iff_of_lt (units_lt_cast hkm)]
    exact h.units_nearest hlt (hkm.trans hfinite)
  · have hkm : k < x.magnitude := by omega
    have htie := (abs_sub_eq_iff_of_lt (units_lt_cast hkm) _).mpr heq.symm
    exact h.even_of_tie hlt (hkm.trans hfinite) hkm.ne htie

/-- Larger numbers are rounded to larger doubles or to the same. -/
lemma RoundsTo.magnitude_le {q r : ℚ} {x y : Binary64} (hx : RoundsTo q x) (hy : RoundsTo r y)
    (h : q ≤ r) : x.magnitude ≤ y.magnitude := by
  rcases lt_or_ge r overflowThreshold with hr | hr
  · exact (hx.inInterval (h.trans_lt hr)).le_of_le (hy.inInterval hr)
      (mul_le_mul_of_nonneg_right h (twos_cast_pos unitPlaces).le)
  · have hnan := hx.not_nan
    rw [isNaN, decide_eq_false_iff_not, not_lt] at hnan
    rwa [hy.infinite_iff.mpr hr]

lemma eq_of_magnitude_eq {x y : Binary64} (hn : x.negative = y.negative)
    (hm : x.magnitude = y.magnitude) : x = y := by
  obtain ⟨negative, magnitude, hlt⟩ := x
  obtain rfl : negative = y.negative := hn
  obtain rfl : magnitude = y.magnitude := hm
  rfl

lemma RoundsTo.unique {q : ℚ} {x y : Binary64} (hx : RoundsTo q x) (hy : RoundsTo q y) : x = y :=
  eq_of_magnitude_eq (hx.not_negative.trans hy.not_negative.symm)
    (le_antisymm (hx.magnitude_le hy le_rfl) (hy.magnitude_le hx le_rfl))

/-- Among finite doubles without sign the values are ordered as the magnitudes. -/
lemma value_le_value {x y : Binary64} (hx : x.negative = false) (hy : y.negative = false)
    (h : x.magnitude ≤ y.magnitude) : x.value ≤ y.value := by
  rw [value_of_not_negative hx, value_of_not_negative hy,
    div_le_div_iff_of_pos_right (twos_cast_pos _)]
  exact units_le_cast h

/-- A smaller number is not rounded to a larger double: if the latter is finite, both are. -/
lemma RoundsTo.value_le {q r : ℚ} {x y : Binary64} (hx : RoundsTo q x)
    (hy : RoundsTo r y) (h : q ≤ r) (hfinite : y.isFinite) : x.isFinite ∧ x.value ≤ y.value := by
  have hlt := hy.isFinite_iff.mp hfinite
  exact ⟨hx.isFinite_iff.mpr (h.trans_lt hlt),
    value_le_value hx.not_negative hy.not_negative (hx.magnitude_le hy h)⟩

/-- What is computed for a decimal is its value, correctly rounded. -/
lemma roundsTo_nearestDecimal (d : Decimal) :
    RoundsTo (d.coefficient / Decimal.tens d.places) (ofMagnitude false (nearestDecimal d)) := by
  obtain ⟨m, hm, hinterval⟩ := exists_inInterval d.coefficient (Decimal.tens_pos d.places)
  have hmagnitude := ofMagnitude_magnitude false
    (Nat.lt_of_le_of_lt (nearest_le_infinity d.coefficient (Decimal.tens d.places)) infinity_lt)
  exact hinterval.roundsTo (div_nonneg (Nat.cast_nonneg _) (Nat.cast_nonneg _)) rfl
    (hmagnitude.trans hm)

/-- What is read from a text is its decimal, correctly rounded. -/
lemma roundsTo_ofText (text : List Char) : RoundsTo
    ((Decimal.ofText text).coefficient / Decimal.tens (Decimal.ofText text).places)
    (ofText text) :=
  roundsTo_nearestDecimal (Decimal.ofText text)

end LoxLexer.Binary64

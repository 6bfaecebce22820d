import Mathlib.Algebra.Order.Field.Basic
import Mathlib.Data.Rat.Cast.Order
import Mathlib.Tactic.FieldSimp
import Mathlib.Tactic.Linarith
import LoxLexer.Proofs.ExactRounding

/-!
# The nearest double

The magnitudes stand in order on the number line, and the ratios that are rounded to a magnitude
fill the interval between the middles to its neighbours. A middle goes to the even one of the two.
From this interval follows what correct rounding asks for: no double is nearer, a tie is even, and
larger ratios are not rounded to smaller doubles.
-/
namespace LoxLexer.Binary64

/-- The magnitude with a given shift and significand. The significand may be the first one that is
too large, which carries into the shift. -/
lemma units_eq {s k : ℕ} (hk : k ≤ 2 * exponentBit) (hn : s = 0 ∨ exponentBit ≤ k) :
    units (s * exponentBit + k) = k * twos s := by
  rcases hk.lt_or_eq with hlt | rfl
  · have hsig : significand (s * exponentBit + k) = k := by
      unfold significand exponentBit at *
      split <;> omega
    have hshift : shift (s * exponentBit + k) = s := by
      unfold shift exponentBit at *
      omega
    rw [units, hsig, hshift]
  · have hsig : significand (s * exponentBit + 2 * exponentBit) = exponentBit := by
      unfold significand exponentBit
      split <;> omega
    have hshift : shift (s * exponentBit + 2 * exponentBit) = s + 1 := by
      unfold shift exponentBit
      omega
    have htwo : twos 1 = 2 := rfl
    rw [units, hsig, hshift, twos_add, htwo]
    ring

lemma shift_eq_zero_or (m : ℕ) : shift m = 0 ∨ exponentBit ≤ significand m := by
  unfold shift significand exponentBit
  split <;> omega

/-- The next magnitude is one spacing further. -/
lemma units_succ (m : ℕ) : units (m + 1) = units m + twos (shift m) := by
  have hnext : m + 1 = shift m * exponentBit + (significand m + 1) := by
    rw [← Nat.add_assoc, shift_mul_add]
  have hsig := significand_lt m
  have hn : shift m = 0 ∨ exponentBit ≤ significand m + 1 :=
    (shift_eq_zero_or m).imp_right fun h => by omega
  rw [hnext, units_eq (by omega) hn, units]
  ring

lemma units_strictMono : StrictMono units := by
  refine strictMono_nat_of_lt_succ fun m => ?_
  rw [units_succ]
  exact Nat.lt_add_of_pos_right (twos_pos _)

lemma units_zero : units 0 = 0 := by simp [units, significand, exponentBit]

lemma even_significand_iff (m : ℕ) : Even (significand m) ↔ Even m := by
  rw [Nat.even_iff, Nat.even_iff]
  unfold significand exponentBit
  split <;> omega

/-- The number of units lies between the middles to the neighbours of a magnitude. -/
structure InInterval (s : ℚ) (m : ℕ) : Prop where
  le_above : 2 * s ≤ units m + units (m + 1)
  even_above : 2 * s = units m + units (m + 1) → Even m
  below_le : ∀ k, k + 1 = m → (units k + units m : ℚ) ≤ 2 * s
  even_below : ∀ k, k + 1 = m → (units k + units m : ℚ) = 2 * s → Even m

lemma units_lt_cast {k m : ℕ} (h : k < m) : (units k : ℚ) < units m :=
  Nat.cast_lt.mpr (units_strictMono h)

lemma units_le_cast {k m : ℕ} (h : k ≤ m) : (units k : ℚ) ≤ units m :=
  Nat.cast_le.mpr (units_strictMono.monotone h)

/-- Of two neighbours, what is not beyond the middle goes to the lower one. -/
lemma InInterval.of_below {s : ℚ} {m : ℕ} (hm : (units m : ℚ) ≤ s)
    (hs : 2 * s ≤ units m + units (m + 1)) (he : 2 * s = units m + units (m + 1) → Even m) :
    InInterval s m := by
  refine ⟨hs, he, fun k hk => ?_, fun k hk heq => ?_⟩
  · have hlt := units_lt_cast (show k < m by omega)
    linarith
  · have hlt := units_lt_cast (show k < m by omega)
    linarith

/-- Of two neighbours, what is not before the middle goes to the upper one. -/
lemma InInterval.of_above {s : ℚ} {m : ℕ} (hm : s < units (m + 1))
    (hs : (units m + units (m + 1) : ℚ) ≤ 2 * s)
    (he : (units m + units (m + 1) : ℚ) = 2 * s → Even (m + 1)) : InInterval s (m + 1) := by
  have hlt := units_lt_cast (Nat.lt_succ_self (m + 1))
  refine ⟨by linarith, fun heq => by linarith, fun k hk => ?_, fun k hk heq => ?_⟩
  · obtain rfl : k = m := by omega
    exact hs
  · obtain rfl : k = m := by omega
    exact he heq

/-- A smaller number of units does not lie in the interval of a larger magnitude. -/
lemma InInterval.le_of_le {s t : ℚ} {m n : ℕ} (hs : InInterval s m) (ht : InInterval t n)
    (h : s ≤ t) : m ≤ n := by
  by_contra hlt
  obtain ⟨k, rfl⟩ : ∃ k, m = k + 1 := ⟨m - 1, by omega⟩
  have hnk : n ≤ k := by omega
  have hn := units_le_cast hnk
  have hn1 := units_le_cast (Nat.succ_le_succ hnk)
  have hbelow := hs.below_le k rfl
  have habove := ht.le_above
  -- Both numbers are the middle of the same two neighbours, and both of these are even.
  have hk : units n = units k := by exact_mod_cast (by linarith : (units n : ℚ) = units k)
  obtain rfl := units_strictMono.injective hk
  have hodd := hs.even_below n rfl (by linarith)
  have heven := ht.even_above (by linarith)
  rw [Nat.even_add_one] at hodd
  exact hodd heven

/-- Of two numbers the lower one is at least as near up to the middle. -/
lemma abs_sub_le_iff_of_lt {a b : ℚ} (h : a < b) (s : ℚ) :
    |a - s| ≤ |b - s| ↔ 2 * s ≤ a + b := by
  have hsq : (b - s) ^ 2 - (a - s) ^ 2 = (b - a) * (a + b - 2 * s) := by ring
  rw [← sq_le_sq, ← sub_nonneg, hsq, mul_nonneg_iff_of_pos_left (sub_pos.mpr h), sub_nonneg]

lemma abs_sub_ge_iff_of_lt {a b : ℚ} (h : a < b) (s : ℚ) :
    |b - s| ≤ |a - s| ↔ a + b ≤ 2 * s := by
  have hsq : (a - s) ^ 2 - (b - s) ^ 2 = (b - a) * (2 * s - (a + b)) := by ring
  rw [← sq_le_sq, ← sub_nonneg, hsq, mul_nonneg_iff_of_pos_left (sub_pos.mpr h), sub_nonneg]

lemma abs_sub_eq_iff_of_lt {a b : ℚ} (h : a < b) (s : ℚ) :
    |a - s| = |b - s| ↔ 2 * s = a + b := by
  rw [le_antisymm_iff, le_antisymm_iff, abs_sub_le_iff_of_lt h, abs_sub_ge_iff_of_lt h]

/-- No magnitude is nearer than the one of the interval. -/
lemma InInterval.no_nearer {s : ℚ} {m : ℕ} (h : InInterval s m) (k : ℕ) :
    |(units m : ℚ) - s| ≤ |(units k : ℚ) - s| := by
  rcases lt_trichotomy k m with hk | rfl | hk
  · obtain ⟨j, rfl⟩ : ∃ j, m = j + 1 := ⟨m - 1, by omega⟩
    have hkj := units_le_cast (Nat.lt_succ_iff.mp hk)
    have hbelow := h.below_le j rfl
    rw [abs_sub_ge_iff_of_lt (units_lt_cast hk)]
    linarith
  · exact le_rfl
  · have hmk := units_le_cast (Nat.succ_le_of_lt hk)
    have habove := h.le_above
    rw [abs_sub_le_iff_of_lt (units_lt_cast hk)]
    linarith

/-- If another magnitude is as near, the number is a middle, and the magnitude even. -/
lemma InInterval.even_of_tie {s : ℚ} {k m : ℕ} (h : InInterval s m) (hne : k ≠ m)
    (htie : |(units k : ℚ) - s| = |(units m : ℚ) - s|) : Even m := by
  rcases hne.lt_or_gt with hk | hk
  · obtain ⟨j, rfl⟩ : ∃ j, m = j + 1 := ⟨m - 1, by omega⟩
    have hkj := units_le_cast (Nat.lt_succ_iff.mp hk)
    have hbelow := h.below_le j rfl
    rw [abs_sub_eq_iff_of_lt (units_lt_cast hk)] at htie
    exact h.even_below j rfl (by linarith)
  · have hmk := units_le_cast (Nat.succ_le_of_lt hk)
    have habove := h.le_above
    rw [eq_comm, abs_sub_eq_iff_of_lt (units_lt_cast hk)] at htie
    exact h.even_above (by linarith)

lemma roundHalfEven_cases (num den : ℕ) :
    (roundHalfEven num den = num / den ∧ 2 * (num % den) ≤ den ∧
        (2 * (num % den) = den → Even (num / den))) ∨
      (roundHalfEven num den = num / den + 1 ∧ den ≤ 2 * (num % den) ∧
        (den = 2 * (num % den) → Even (num / den + 1))) := by
  rw [Nat.even_iff, Nat.even_iff]
  unfold roundHalfEven
  dsimp only
  split_ifs <;> omega

/-- The spacing is that of the right binade: the whole part has fifty-three digits of it, or fewer
in the lowest binade. -/
lemma whole_bounds (n : ℕ) : n / twos (n.log2 - 52) < 2 * exponentBit ∧
    (n.log2 - 52 = 0 ∨ exponentBit ≤ n / twos (n.log2 - 52)) := by
  have hbit : exponentBit * twos (n.log2 - 52) = twos (52 + (n.log2 - 52)) := by
    rw [exponentBit_eq, twos_add]
  have hpos := twos_pos (n.log2 - 52)
  constructor
  · rw [Nat.div_lt_iff_lt_mul hpos, Nat.mul_assoc, hbit]
    calc n < twos (n.log2 + 1) := Nat.lt_log2_self
      _ ≤ twos (1 + (52 + (n.log2 - 52))) := Nat.pow_le_pow_right (by decide) (by omega)
      _ = 2 * twos (52 + (n.log2 - 52)) := twos_add _ _
  · rcases Nat.eq_zero_or_pos (n.log2 - 52) with h | h
    · exact .inl h
    · right
      have hn : n ≠ 0 := by
        rintro rfl
        simp at h
      have hlog : 52 + (n.log2 - 52) = n.log2 := by omega
      rw [Nat.le_div_iff_mul_le hpos, hbit, hlog]
      exact Nat.log2_self_le hn

lemma even_exponentBit : Even exponentBit := ⟨0x8000000000000, rfl⟩

lemma even_shift_add {whole : ℕ} (shift : ℕ) (h : Even whole) :
    Even (shift * exponentBit + whole) :=
  (even_exponentBit.mul_left shift).add h

/-- The neighbours between which a whole number of spacings and a rest stand. -/
lemma units_neighbours {shift whole : ℕ} (hlt : whole < 2 * exponentBit)
    (hn : shift = 0 ∨ exponentBit ≤ whole) :
    (units (shift * exponentBit + whole) : ℚ) = whole * twos shift ∧
      (units (shift * exponentBit + whole + 1) : ℚ) = whole * twos shift + twos shift := by
  have hlower := units_eq hlt.le hn
  have hupper : units (shift * exponentBit + whole + 1) = (whole + 1) * twos shift := by
    rw [Nat.add_assoc]
    exact units_eq (Nat.succ_le_of_lt hlt) (hn.imp_right Nat.le_succ_of_le)
  rw [hlower, hupper]
  push_cast
  exact ⟨rfl, by ring⟩

lemma inInterval_of_rest_le {shift whole : ℕ} {rest : ℚ} (hlt : whole < 2 * exponentBit)
    (hn : shift = 0 ∨ exponentBit ≤ whole) (hzero : 0 ≤ rest) (hrest : 2 * rest ≤ twos shift)
    (he : 2 * rest = twos shift → Even whole) :
    InInterval (whole * twos shift + rest) (shift * exponentBit + whole) := by
  obtain ⟨hlower, hupper⟩ := units_neighbours hlt hn
  refine .of_below ?_ ?_ fun heq => even_shift_add shift (he ?_)
  · linarith
  · linarith
  · linarith

lemma inInterval_of_le_rest {shift whole : ℕ} {rest : ℚ} (hlt : whole < 2 * exponentBit)
    (hn : shift = 0 ∨ exponentBit ≤ whole) (hspacing : rest < twos shift)
    (hrest : (twos shift : ℚ) ≤ 2 * rest) (he : (twos shift : ℚ) = 2 * rest → Even (whole + 1)) :
    InInterval (whole * twos shift + rest) (shift * exponentBit + (whole + 1)) := by
  obtain ⟨hlower, hupper⟩ := units_neighbours hlt hn
  have heven := @even_shift_add (whole + 1) shift
  rw [← Nat.add_assoc] at heven ⊢
  refine .of_above ?_ ?_ fun heq => heven (he ?_)
  · linarith
  · linarith
  · linarith

/-- A ratio as a whole number of spacings and a rest, with the rest on one side of the middle. -/
lemma ratio_split (num : ℕ) {den spacing : ℕ} (hden : 0 < den) (hspacing : 0 < spacing) :
    ∃ rest : ℚ, (num : ℚ) / den = (num / (den * spacing) : ℕ) * spacing + rest ∧ 0 ≤ rest ∧
      rest < spacing ∧
      (2 * rest ≤ spacing ↔ 2 * (num % (den * spacing)) ≤ den * spacing) ∧
      ((spacing : ℚ) ≤ 2 * rest ↔ den * spacing ≤ 2 * (num % (den * spacing))) := by
  have hdenQ : (0 : ℚ) < den := Nat.cast_pos.mpr hden
  have hmod : num % (den * spacing) < den * spacing := Nat.mod_lt _ (Nat.mul_pos hden hspacing)
  have hdiv : den * spacing * (num / (den * spacing)) + num % (den * spacing) = num :=
    Nat.div_add_mod num (den * spacing)
  generalize num % (den * spacing) = remainder at hmod hdiv ⊢
  generalize num / (den * spacing) = whole at hdiv ⊢
  refine ⟨remainder / den, ?_, by positivity, ?_, ?_, ?_⟩
  · rw [← hdiv]
    push_cast
    field_simp
  · rw [div_lt_iff₀ hdenQ, mul_comm]
    exact_mod_cast hmod
  · rw [← mul_div_assoc, div_le_iff₀ hdenQ, mul_comm (spacing : ℚ)]
    exact_mod_cast Iff.rfl
  · rw [← mul_div_assoc, le_div_iff₀ hdenQ, mul_comm (spacing : ℚ)]
    exact_mod_cast Iff.rfl

/-- Rounding to a multiple of the right spacing gives the magnitude in whose interval the ratio
lies. -/
lemma inInterval_roundHalfEven (num : ℕ) {den shift : ℕ} (hden : 0 < den)
    (hs : shift = (num / den).log2 - 52) :
    InInterval ((num : ℚ) / den)
      (shift * exponentBit + roundHalfEven num (den * twos shift)) := by
  obtain ⟨hlt, hn⟩ := whole_bounds (num / den)
  rw [← hs, Nat.div_div_eq_div_mul] at hlt hn
  obtain ⟨rest, hratio, hzero, hspacing, hle, hge⟩ := ratio_split num hden (twos_pos shift)
  rw [hratio]
  rcases roundHalfEven_cases num (den * twos shift) with ⟨hr, hbelow, heven⟩ | ⟨hr, habove, heven⟩
  · rw [hr]
    refine inInterval_of_rest_le hlt hn hzero (hle.mpr hbelow) fun heq => heven ?_
    exact Nat.le_antisymm hbelow (hge.mp heq.ge)
  · rw [hr]
    refine inInterval_of_le_rest hlt hn hspacing (hge.mpr habove) fun heq => heven ?_
    exact Nat.le_antisymm habove (hle.mp heq.ge)

/-- What is computed is the magnitude in whose interval the ratio lies, or infinity beyond it. -/
lemma exists_inInterval (num : ℕ) {den : ℕ} (hden : 0 < den) : ∃ m,
    nearest num den = min infinity m ∧ InInterval ((num : ℚ) / den * twos unitPlaces) m := by
  refine ⟨_, rfl, ?_⟩
  have hscaled : (num : ℚ) / den * twos unitPlaces = (num * twos unitPlaces : ℕ) / den := by
    rw [Nat.cast_mul]
    ring
  rw [hscaled]
  exact inInterval_roundHalfEven _ hden rfl

end LoxLexer.Binary64

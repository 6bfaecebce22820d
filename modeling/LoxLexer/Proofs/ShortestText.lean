import LoxLexer.Proofs.SignificantDigits

/-!
# The shortest text of a number

A finite double is written with the fewest significant digits that read back as it. A grid of one
more digit stands at every place below the first digit of the double, and what is rounded to the
double leaves no gap: if a decimal with so many digits reads back, the neighbour of the double on
this grid that lies towards the decimal does as well. So the search, which ends on the coarsest grid
with such a neighbour, does not pass a shorter decimal.
-/
namespace LoxLexer
namespace Binary64
open Decimal

section
variable {m : ℕ}

lemma ofGrid_value (origin e steps : ℕ) :
    ((ofGrid origin e steps).coefficient : ℚ) / tens (ofGrid origin e steps).places =
      steps * 10 ^ e / 10 ^ origin := by
  have htens : ∀ k, (tens k : ℚ) = 10 ^ k := fun k => Nat.cast_pow 10 k
  rw [ofGrid, Nat.cast_mul, htens, htens]
  rcases Nat.le_total e origin with h | h
  · obtain ⟨k, rfl⟩ := Nat.exists_eq_add_of_le h
    rw [Nat.sub_eq_zero_of_le h, Nat.add_sub_cancel_left, pow_zero, pow_add]
    field_simp
  · obtain ⟨k, rfl⟩ := Nat.exists_eq_add_of_le h
    rw [Nat.sub_eq_zero_of_le h, Nat.add_sub_cancel_left, pow_zero, pow_add]
    field_simp

lemma roundsTo_grid (e steps : ℕ) : RoundsTo (steps * 10 ^ e / 10 ^ unitPlaces)
    (ofMagnitude false (nearestDecimal (ofGrid unitPlaces e steps))) := by
  rw [← ofGrid_value]
  exact roundsTo_nearestDecimal _

lemma RoundsTo.of_readsBack {e steps : ℕ} (h : readsBack m e steps) :
    RoundsTo (steps * 10 ^ e / 10 ^ unitPlaces) (ofMagnitude false m) := by
  have hgrid := roundsTo_grid e steps
  rwa [of_decide_eq_true h] at hgrid

/-- The numbers that are rounded to one double leave no gap. -/
lemma readsBack_between (hm : m < infinity) {q r : ℚ} {e steps : ℕ}
    (hq : RoundsTo q (ofMagnitude false m)) (hr : RoundsTo r (ofMagnitude false m))
    (hqs : q ≤ steps * 10 ^ e / 10 ^ unitPlaces) (hsr : steps * 10 ^ e / 10 ^ unitPlaces ≤ r) :
    readsBack m e steps := by
  have hgrid := roundsTo_grid e steps
  have hmag := ofMagnitude_magnitude false (hm.trans infinity_lt)
  have hback := ofMagnitude_magnitude false (Nat.lt_of_le_of_lt (nearest_le_infinity
    (ofGrid unitPlaces e steps).coefficient (tens (ofGrid unitPlaces e steps).places)) infinity_lt)
  have hle := hq.magnitude_le hgrid hqs
  have hge := hgrid.magnitude_le hr hsr
  rw [hmag] at hle hge
  refine decide_eq_true (Nat.le_antisymm ?_ ?_)
  · exact hback.symm.trans_le hge
  · exact hle.trans_eq hback

lemma roundsTo_decimalUnits (hm : m < infinity) :
    RoundsTo (decimalUnits m / 10 ^ unitPlaces) (ofMagnitude false m) := by
  have h := RoundsTo.of_readsBack (readsBack_decimalUnits hm)
  rwa [pow_zero, mul_one] at h

end

/-- The search ends at the first exponent, from above, at which something is found. -/
lemma findDown_spec (find? : ℕ → Option ℕ) (last start : ℕ) :
    (findDown find? last start).1 ≤ start ∧
      ∀ e, (findDown find? last start).1 < e → e ≤ start → find? e = none := by
  induction start with
  | zero => exact ⟨Nat.le_refl 0, fun e hlt hle => by omega⟩
  | succ start ih =>
    unfold findDown
    split
    · exact ⟨Nat.le_refl _, fun e hlt hle => by omega⟩
    · next hnone =>
      refine ⟨ih.1.trans (Nat.le_succ _), fun e hlt hle => ?_⟩
      rcases Nat.lt_or_eq_of_le hle with hlt' | rfl
      · exact ih.2 e hlt (Nat.lt_succ_iff.mp hlt')
      · exact hnone

lemma leadingPlaceFrom_spec {n : ℕ} (hn : 0 < n) {e : ℕ} (h : n < tens (e + 1)) :
    tens (leadingPlaceFrom n e) ≤ n ∧ n < tens (leadingPlaceFrom n e + 1) := by
  induction e with
  | zero => exact ⟨hn, h⟩
  | succ e ih =>
    unfold leadingPlaceFrom
    split
    · next hle => exact ⟨hle, h⟩
    · next hle => exact ih (Nat.lt_of_not_le hle)

/-- A number has its first digit at the leading place. -/
lemma leadingPlace_spec {n : ℕ} (hn : 0 < n) :
    tens (leadingPlace n) ≤ n ∧ n < tens (leadingPlace n + 1) := by
  refine leadingPlaceFrom_spec hn ?_
  have hbase : 2 ^ 93 ≤ 10 ^ 28 := by decide
  calc n < 2 ^ (n.log2 + 1) := Nat.lt_log2_self
    _ ≤ 2 ^ (93 * (n.log2 / 93 + 1)) := Nat.pow_le_pow_right (by decide) (by omega)
    _ = (2 ^ 93) ^ (n.log2 / 93 + 1) := pow_mul 2 93 _
    _ ≤ (10 ^ 28) ^ (n.log2 / 93 + 1) := Nat.pow_le_pow_left hbase _
    _ = 10 ^ (28 * (n.log2 / 93 + 1)) := (pow_mul 10 28 _).symm
    _ ≤ 10 ^ (28 * (n.log2 / 93 + 1) + 1) := Nat.pow_le_pow_right (by decide) (Nat.le_succ _)

lemma isSome_pick {below : ℕ} {belowReads aboveReads nearer : Bool}
    (h : belowReads ∨ aboveReads) : (pick below belowReads aboveReads nearer).isSome := by
  cases belowReads <;> cases aboveReads <;> simp_all [pick]

lemma le_of_pick {below steps : ℕ} {belowReads aboveReads nearer : Bool}
    (h : pick below belowReads aboveReads nearer = some steps) : steps ≤ below + 1 := by
  cases belowReads <;> cases aboveReads <;> cases nearer <;> simp [pick] at h <;> omega

/-- A multiple of a power of ten with fewer than `10 ^ n` steps does not lie between two neighbours
on a grid on which these have at least `n` digits. -/
lemma not_between_grid {b c n : ℕ} (hn : 0 < n) (hc : c < 10 ^ n) (hb : 10 ^ (n - 1) ≤ b)
    (i j : ℕ) : c * 10 ^ i ≤ b * 10 ^ j ∨ (b + 1) * 10 ^ j ≤ c * 10 ^ i := by
  rcases Nat.lt_or_ge i j with hij | hji
  · left
    have hten : 10 ^ n = 10 ^ (n - 1) * 10 := by rw [← pow_succ, Nat.sub_add_cancel hn]
    calc c * 10 ^ i ≤ b * 10 * 10 ^ i := Nat.mul_le_mul_right _ (by omega)
      _ = b * 10 ^ (i + 1) := by rw [Nat.mul_assoc, ← pow_succ']
      _ ≤ b * 10 ^ j := Nat.mul_le_mul_left _ (Nat.pow_le_pow_right (by decide) hij)
  · obtain ⟨k, rfl⟩ := Nat.exists_eq_add_of_le' hji
    rw [pow_add, ← Nat.mul_assoc]
    rcases Nat.lt_or_ge b (c * 10 ^ k) with hlt | hle
    · exact .inr (Nat.mul_le_mul_right _ hlt)
    · exact .inl (Nat.mul_le_mul_right _ hle)

section
variable {m : ℕ}

lemma isSome_neighbour? {e : ℕ} (h : readsBack m e (decimalUnits m / tens e) ∨
    readsBack m e (decimalUnits m / tens e + 1)) : (neighbour? m e).isSome :=
  isSome_pick h

/-- A number that is rounded to the double and does not lie between the neighbours of the double on
a grid makes one of them read back. -/
lemma isSome_neighbour?_of_roundsTo (hm : m < infinity) {q : ℚ} {e steps : ℕ}
    (hsteps : steps = decimalUnits m / tens e) (hq : RoundsTo q (ofMagnitude false m))
    (hout : q ≤ steps * 10 ^ e / 10 ^ unitPlaces ∨
      ((steps + 1 : ℕ) : ℚ) * 10 ^ e / 10 ^ unitPlaces ≤ q) : (neighbour? m e).isSome := by
  have hround := roundsTo_decimalUnits hm
  have hpos : (0 : ℚ) < 10 ^ unitPlaces := by positivity
  apply isSome_neighbour?
  rw [← hsteps]
  refine hout.imp (fun hle => ?_) fun hge => ?_
  · refine readsBack_between hm hq hround hle ?_
    rw [div_le_div_iff_of_pos_right hpos]
    have hbelow : steps * 10 ^ e ≤ decimalUnits m := hsteps ▸ Nat.div_mul_le_self ..
    exact_mod_cast hbelow
  · refine readsBack_between hm hround hq ?_ hge
    rw [div_le_div_iff_of_pos_right hpos]
    have habove : decimalUnits m ≤ (steps + 1) * 10 ^ e := by
      rw [hsteps, Nat.mul_comm]
      exact (Nat.lt_mul_div_succ _ (tens_pos e)).le
    exact_mod_cast habove

/-- If a decimal with `n` digits reads back, so does a neighbour on the grid of `n` digits. -/
lemma isSome_neighbour?_of_decimal (hm : m < infinity) (hpos : 0 < decimalUnits m)
    {c a p n : ℕ} (hn : 0 < n) (hc : c < 10 ^ n) (hle : n ≤ leadingPlace (decimalUnits m))
    (h : RoundsTo (c * 10 ^ a / 10 ^ p) (ofMagnitude false m)) :
    (neighbour? m (leadingPlace (decimalUnits m) + 1 - n)).isSome := by
  obtain ⟨hfirst, -⟩ := leadingPlace_spec hpos
  generalize leadingPlace (decimalUnits m) = place at hfirst hle
  generalize he : place + 1 - n = e
  have hb : 10 ^ (n - 1) ≤ decimalUnits m / tens e := by
    rw [Nat.le_div_iff_mul_le (tens_pos e)]
    refine Nat.le_trans (Nat.le_of_eq ?_) hfirst
    have hplace : n - 1 + e = place := by omega
    exact (pow_add 10 _ _).symm.trans (congrArg (10 ^ ·) hplace)
  refine isSome_neighbour?_of_roundsTo hm rfl h ?_
  have hten : ∀ k, (0 : ℚ) < 10 ^ k := fun k => by positivity
  rw [div_le_div_iff₀ (hten _) (hten _), div_le_div_iff₀ (hten _) (hten _), mul_assoc, mul_assoc,
    mul_assoc, ← pow_add, ← pow_add]
  exact_mod_cast not_between_grid hn hc hb (a + unitPlaces) (e + p)

/-- What the search ends with has no more digits than the double has from its first digit to the
place of the grid. -/
lemma coarsest_steps_le (hpos : 0 < decimalUnits m) {e steps : ℕ}
    (h : coarsest m (leadingPlace (decimalUnits m)) = (e, steps)) :
    steps ≤ 10 ^ (leadingPlace (decimalUnits m) + 1 - e) := by
  obtain ⟨-, hlt⟩ := leadingPlace_spec hpos
  have hfound := @findDown_induction
    (fun e steps => steps ≤ 10 ^ (leadingPlace (decimalUnits m) + 1 - e)) (neighbour? m)
    (decimalUnits m) hlt.le (fun e steps hsteps => ?_) (leadingPlace (decimalUnits m))
  · rwa [← coarsest, h] at hfound
  · refine (le_of_pick hsteps).trans (Nat.succ_le_of_lt ?_)
    rw [Nat.div_lt_iff_lt_mul (tens_pos e)]
    refine hlt.trans_le ((Nat.pow_le_pow_right (by decide) ?_).trans_eq (pow_add 10 _ e))
    omega

lemma length_significantDigits_shortest (hpos : 0 < decimalUnits m) :
    (significantDigits (shortest m).toText).length ≤ leadingPlace (decimalUnits m) + 1 -
      (coarsest m (leadingPlace (decimalUnits m))).1 := by
  rcases hfound : coarsest m (leadingPlace (decimalUnits m)) with ⟨e, steps⟩
  have hsteps := coarsest_steps_le hpos hfound
  have he := (findDown_spec (neighbour? m) (decimalUnits m) (leadingPlace (decimalUnits m))).1
  rw [← coarsest, hfound] at he
  obtain ⟨htrim, -⟩ := trim_coefficient (ofGrid unitPlaces e steps).coefficient
    (ofGrid unitPlaces e steps).places
  have hshortest : shortest m = trim (ofGrid unitPlaces e steps).coefficient
      (ofGrid unitPlaces e steps).places := by rw [shortest, hfound]
  rw [← hshortest] at htrim
  exact length_significantDigits_le (by omega) hsteps htrim

lemma not_roundsTo_zero (hm : m < infinity) (hpos : 0 < m) :
    ¬ RoundsTo 0 (ofMagnitude false m) := by
  intro hround
  have hread := roundsTo_nearestDecimal ⟨0, 0⟩
  have hzero : nearestDecimal ⟨0, 0⟩ = 0 := by decide +kernel
  simp only [Nat.cast_zero, zero_div, hzero] at hread
  have hle := hround.magnitude_le hread le_rfl
  rw [ofMagnitude_magnitude false (hm.trans infinity_lt)] at hle
  exact hpos.not_ge hle

/-- No decimal with fewer significant digits reads back. -/
lemma not_roundsTo_of_length_lt (hm : m < infinity) {t : List Char} (ht : IsNumeral t)
    (hlt : (significantDigits t).length < (significantDigits (shortest m).toText).length) :
    ¬ RoundsTo (numeralValue t) (ofMagnitude false m) := by
  obtain ⟨c, a, p, hc, hvalue⟩ := exists_numeralValue_eq ht
  rw [hvalue]
  intro hround
  rcases Nat.eq_zero_or_pos m with rfl | hm0
  · have hzero : significantDigits (shortest 0).toText = [] := by decide +kernel
    rw [hzero] at hlt
    exact absurd hlt (Nat.not_lt_zero _)
  have hfives : ∀ k, 0 < Nat.pow 5 k := fun k => Nat.pow_pos (by decide)
  have hpos : 0 < decimalUnits m :=
    Nat.mul_pos (units_zero ▸ units_strictMono hm0) (hfives unitPlaces)
  rcases Nat.eq_zero_or_pos (significantDigits t).length with hn | hn
  · obtain rfl : c = 0 := by
      rw [hn] at hc
      omega
    rw [Nat.cast_zero, zero_mul, zero_div] at hround
    exact not_roundsTo_zero hm hm0 hround
  · -- The search would have ended on the grid of so many digits, or above it.
    have hlength := length_significantDigits_shortest hpos
    obtain ⟨-, hnone⟩ := findDown_spec (neighbour? m) (decimalUnits m)
      (leadingPlace (decimalUnits m))
    rw [← coarsest] at hnone
    have hsome := isSome_neighbour?_of_decimal hm hpos hn hc (by omega) hround
    rw [hnone _ (by omega) (by omega)] at hsome
    cases hsome

end

/-- The text of a double that is a number: behind the sign a numeral that reads back, or
infinity. -/
lemma toText_cases {x : Binary64} (h : x.isNaN = false) : ∃ t,
    x.toText = (if x.negative then ['-'] else []) ++ t ∧
      (IsNumeral t ∧ ofText t = x.abs ∨ t = ['i', 'n', 'f'] ∧ x.magnitude = infinity) := by
  rcases Nat.lt_or_ge x.magnitude infinity with hlt | hge
  · refine ⟨_, toText_of_isFinite (decide_eq_true hlt), .inl ⟨isNumeral_toText _, ?_⟩⟩
    rw [ofText_toText_shortest hlt, x.abs_eq_ofMagnitude]
  · have hle : x.magnitude ≤ infinity := Nat.not_lt.mp (of_decide_eq_false h)
    have hfinite : x.isFinite = false := decide_eq_false (Nat.not_lt.mpr hge)
    refine ⟨['i', 'n', 'f'], ?_, .inr ⟨rfl, Nat.le_antisymm hle hge⟩⟩
    simp only [toText, h, hfinite, Bool.false_eq_true, if_false]

lemma head?_ne_minus {t : List Char} (h : IsNumeral t ∨ t = ['i', 'n', 'f']) :
    t.head? ≠ some '-' := by
  rcases h with h | rfl
  · intro hhead
    obtain ⟨ds, rfl⟩ := List.head?_eq_some_iff.mp hhead
    exact absurd h.head (by decide)
  · decide

lemma sign_inj {s s' : Bool} {t t' : List Char} (ht : t.head? ≠ some '-')
    (ht' : t'.head? ≠ some '-')
    (h : (if s then ['-'] else []) ++ t = (if s' then ['-'] else []) ++ t') : s = s' ∧ t = t' := by
  cases s <;> cases s'
  · exact ⟨rfl, h⟩
  · obtain rfl : t = '-' :: t' := h
    exact (ht rfl).elim
  · obtain rfl : t' = '-' :: t := h.symm
    exact (ht' rfl).elim
  · exact ⟨rfl, (List.cons.inj h).2⟩

/-- Doubles that are numbers have different texts. -/
lemma eq_of_toText_eq {x y : Binary64} (hx : x.isNaN = false) (hy : y.isNaN = false)
    (h : x.toText = y.toText) : x = y := by
  obtain ⟨t, htext, ht⟩ := toText_cases hx
  obtain ⟨u, hutext, hu⟩ := toText_cases hy
  rw [htext, hutext] at h
  obtain ⟨hsign, rfl⟩ := sign_inj (head?_ne_minus (ht.imp And.left And.left))
    (head?_ne_minus (hu.imp And.left And.left)) h
  refine eq_of_magnitude_eq hsign ?_
  rcases ht with ⟨hnum, hread⟩ | ⟨rfl, hinf⟩
  · rcases hu with ⟨-, hread'⟩ | ⟨rfl, -⟩
    · have hmag : x.abs.magnitude = y.abs.magnitude := congrArg _ (hread.symm.trans hread')
      exact hmag
    · exact absurd hnum.head (by decide)
  · rcases hu with ⟨hnum, -⟩ | ⟨-, hinf'⟩
    · exact absurd hnum.head (by decide)
    · exact hinf.trans hinf'.symm

end Binary64

open Binary64 in
/-- The text of a finite double is a minus sign, if the sign bit is set, and a plain decimal, and no
decimal that reads back has fewer significant digits. Two doubles that are numbers never have the
same text. -/
theorem number_text_shortest :
    (∀ x : Binary64, x.isFinite → ∃ digits : List Char,
      (Literal.number x).text.toList = (if x.negative then ['-'] else []) ++ digits ∧
        IsPlainDecimal digits ∧ RoundsTo (numeralValue digits) x.abs ∧
        ∀ t, IsNumeral t → RoundsTo (numeralValue t) x.abs →
          (significantDigits digits).length ≤ (significantDigits t).length) ∧
      ∀ x y : Binary64, x.isNaN = false → y.isNaN = false →
        (Literal.number x).text = (Literal.number y).text → x = y := by
  refine ⟨fun x h => ⟨(shortest x.magnitude).toText, ?_, ?_, ?_, fun t ht hround => ?_⟩,
    fun x y hx hy h => eq_of_toText_eq hx hy (String.ofList_inj.mp h)⟩
  · rw [Literal.text, String.toList_ofList, toText_of_isFinite h]
  · exact isPlainDecimal_toText (Decimal.trim_last _ _)
  · rw [numeralValue_eq (Decimal.isNumeral_toText _), x.abs_eq_ofMagnitude,
      ← ofText_toText_shortest (of_decide_eq_true h)]
    exact roundsTo_ofText _
  · by_contra hlt
    rw [x.abs_eq_ofMagnitude] at hround
    exact not_roundsTo_of_length_lt (of_decide_eq_true h) ht (Nat.lt_of_not_le hlt) hround

/-- The sum of a tenth and two tenths needs all seventeen digits. -/
theorem number_text_shortest_sum :
    (Binary64.ofBits 0x3fd3333333333334).isFinite ∧
      (Literal.number (.ofBits 0x3fd3333333333334)).text = "0.30000000000000004" ∧
      (∀ t, IsNumeral t → Binary64.RoundsTo (numeralValue t) (.ofBits 0x3fd3333333333334) →
        17 ≤ (significantDigits t).length) ∧
      Binary64.ofText "0.300000000000000040".toList = .ofBits 0x3fd3333333333334 := by
  have hfinite : (Binary64.ofBits 0x3fd3333333333334).isFinite := by decide +kernel
  have htext : (Literal.number (.ofBits 0x3fd3333333333334)).text = "0.30000000000000004" := by
    decide +kernel
  have hread : (Literal.number (Binary64.ofText "0.300000000000000040".toList)).text =
      (Literal.number (.ofBits 0x3fd3333333333334)).text := by decide +kernel
  obtain ⟨digits, hdigits, -, -, hshortest⟩ := number_text_shortest.1 _ hfinite
  obtain rfl : digits = "0.30000000000000004".toList := by
    rw [htext] at hdigits
    exact hdigits.symm
  have hlength : (significantDigits "0.30000000000000004".toList).length = 17 := by decide +kernel
  rw [hlength] at hshortest
  exact ⟨hfinite, htext, hshortest,
    number_text_shortest.2 _ _ (by decide +kernel) (by decide +kernel) hread⟩

end LoxLexer

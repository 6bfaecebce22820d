import Mathlib.Data.List.DropRight
import LoxLexer.Proofs.NumberValue

/-!
# Significant digits

The significant digits of a numeral go from its first digit that is not zero to its last one. They
make its value, up to a power of ten, and a number that is at most a power of ten, with zeros behind
it or not, has no more of them than this power has zeros. A plain decimal has no zero that could be
left out.
-/
namespace LoxLexer
open Decimal

/-- The digits from the first to the last one that is not zero. -/
def significantDigits (t : List Char) : List Char :=
  ((t.filter Char.isDigit).dropWhile (· = '0')).rdropWhile (· = '0')

/-- No digit of the whole part or the fraction could be left out. -/
inductive IsPlainDecimal : List Char → Prop
  | whole {whole : List Char} (hw : IsDigits whole)
      (hzero : whole.head? = some '0' → whole = ['0']) : IsPlainDecimal whole
  | point {whole fraction : List Char} (hw : IsDigits whole)
      (hzero : whole.head? = some '0' → whole = ['0']) (hf : IsDigits fraction)
      (hlast : fraction.getLast? ≠ some '0') : IsPlainDecimal (whole ++ '.' :: fraction)

section
variable {ds : List Char} {c : Char}

lemma ofDigitChars_cons_eq (c : Char) (ds : List Char) : Nat.ofDigitChars 10 (c :: ds) 0 =
    10 ^ ds.length * (c.toNat - 48) + Nat.ofDigitChars 10 ds 0 := by
  rw [Nat.ofDigitChars_cons, Nat.ofDigitChars_eq_ofDigitChars_zero, Nat.mul_zero, Nat.zero_add]
  rfl

lemma ofDigitChars_lt (h : ∀ c ∈ ds, c.isDigit) : Nat.ofDigitChars 10 ds 0 < 10 ^ ds.length := by
  induction ds with
  | nil => decide
  | cons c ds ih =>
    have hrest := ih fun d hd => h d (by simp [hd])
    obtain ⟨-, hle⟩ := Piece.toNat_of_isDigit (h c (by simp))
    have hdigit : 10 ^ ds.length * (c.toNat - 48) ≤ 10 ^ ds.length * 9 :=
      Nat.mul_le_mul_left _ (by omega)
    rw [ofDigitChars_cons_eq, List.length_cons, pow_succ]
    omega

lemma le_ofDigitChars_of_ne_zero (hd : c.isDigit) (hc : c ≠ '0') (ds : List Char) :
    10 ^ ds.length ≤ Nat.ofDigitChars 10 (c :: ds) 0 := by
  obtain ⟨hge, -⟩ := Piece.toNat_of_isDigit hd
  have hne : c.toNat ≠ 48 := fun h => hc (Char.toNat_inj.mp h)
  have hdigit : 10 ^ ds.length * 1 ≤ 10 ^ ds.length * (c.toNat - 48) :=
    Nat.mul_le_mul_left _ (by omega)
  rw [ofDigitChars_cons_eq]
  omega

/-- The last digit is the rest of the division by ten. -/
lemma ofDigitChars_concat_mod (hd : c.isDigit) (ds : List Char) :
    Nat.ofDigitChars 10 (ds ++ [c]) 0 % 10 = c.toNat - 48 := by
  obtain ⟨-, hle⟩ := Piece.toNat_of_isDigit hd
  have hzero : '0'.toNat = 48 := rfl
  rw [Nat.ofDigitChars_append, Nat.ofDigitChars_cons, Nat.ofDigitChars_nil, hzero]
  omega

end

/-- Before and behind the significant digits of a text there are only zeros. -/
lemma exists_zeros (t : List Char) : ∃ a b, t.filter Char.isDigit =
    List.replicate a '0' ++ significantDigits t ++ List.replicate b '0' := by
  obtain ⟨a, ha⟩ : ∃ a, (t.filter Char.isDigit).takeWhile (· = '0') = List.replicate a '0' :=
    ⟨_, List.eq_replicate_of_mem fun c hc => by simpa using List.mem_takeWhile_imp hc⟩
  obtain ⟨b, hb⟩ : ∃ b, ((t.filter Char.isDigit).dropWhile (· = '0')).rtakeWhile (· = '0') =
      List.replicate b '0' :=
    ⟨_, List.eq_replicate_of_mem fun c hc => by simpa using List.mem_rtakeWhile_imp hc⟩
  refine ⟨a, b, ?_⟩
  rw [← ha, ← hb, significantDigits, List.append_assoc, List.rdropWhile_append_rtakeWhile,
    List.takeWhile_append_dropWhile]

lemma isDigit_of_mem_significantDigits {t : List Char} {c : Char}
    (h : c ∈ significantDigits t) : c.isDigit := by
  have hdrop := (List.rdropWhile_prefix _ _).subset h
  have hfilter := (List.dropWhile_suffix _).subset hdrop
  exact (List.mem_filter.mp hfilter).2

lemma exists_ofDigitChars_eq (t : List Char) : ∃ b,
    Nat.ofDigitChars 10 (t.filter Char.isDigit) 0 =
      Nat.ofDigitChars 10 (significantDigits t) 0 * 10 ^ b := by
  obtain ⟨a, b, h⟩ := exists_zeros t
  refine ⟨b, ?_⟩
  rw [h, Nat.ofDigitChars_append, Nat.ofDigitChars_append, Nat.ofDigitChars_replicate_zero,
    Nat.ofDigitChars_replicate_zero, Nat.mul_zero, Nat.mul_comm]

lemma coefficient_ofText {t : List Char} (h : IsNumeral t) :
    (ofText t).coefficient = Nat.ofDigitChars 10 (t.filter Char.isDigit) 0 := by
  rcases h with ⟨-, hw⟩ | ⟨whole, fraction, ⟨-, hw⟩, ⟨-, hf⟩, rfl⟩
  · have htake := takeWhile_append_run hw (startsOutside_nil _)
    have hdrop := dropWhile_append_run hw (startsOutside_nil _)
    rw [List.append_nil] at htake hdrop
    rw [List.filter_eq_self.mpr hw]
    simp [ofText, htake, hdrop]
  · have ho : StartsOutside Char.isDigit ('.' :: fraction) := by simp
    have hfilter : (whole ++ '.' :: fraction).filter Char.isDigit = whole ++ fraction := by
      rw [List.filter_append, List.filter_cons_of_neg (by decide), List.filter_eq_self.mpr hw,
        List.filter_eq_self.mpr hf]
    simp only [ofText, takeWhile_append_run hw ho, dropWhile_append_run hw ho, List.drop_one,
      List.tail_cons, hfilter]

/-- The value of a numeral is a number of no more digits than the numeral has significant ones, with
its point shifted. -/
lemma exists_numeralValue_eq {t : List Char} (h : IsNumeral t) : ∃ c a p : ℕ,
    c < 10 ^ (significantDigits t).length ∧ numeralValue t = c * 10 ^ a / 10 ^ p := by
  obtain ⟨b, hb⟩ := exists_ofDigitChars_eq t
  refine ⟨_, b, (ofText t).places,
    ofDigitChars_lt fun c hc => isDigit_of_mem_significantDigits hc, ?_⟩
  have htens : (tens (ofText t).places : ℚ) = 10 ^ (ofText t).places := Nat.cast_pow 10 _
  rw [numeralValue_eq h, coefficient_ofText h, hb, htens]
  push_cast
  rfl

/-- The first and the last significant digit are not zero. -/
lemma significantDigits_cases (t : List Char) : significantDigits t = [] ∨
    10 ^ ((significantDigits t).length - 1) ≤ Nat.ofDigitChars 10 (significantDigits t) 0 ∧
      Nat.ofDigitChars 10 (significantDigits t) 0 % 10 ≠ 0 := by
  by_cases hnil : significantDigits t = []
  · exact .inl hnil
  right
  have hdigit : ∀ c ∈ significantDigits t, c.isDigit := fun c hc =>
    isDigit_of_mem_significantDigits hc
  constructor
  · obtain ⟨c, ds, hcons⟩ := List.exists_cons_of_ne_nil hnil
    -- The digits begin as the row that is left without the zeros in front.
    have hprefix : significantDigits t <+: (t.filter Char.isDigit).dropWhile (· = '0') :=
      List.rdropWhile_prefix _ _
    have hc : c ≠ '0' := by
      have hstart := startsOutside_dropWhile (· = '0') (t.filter Char.isDigit)
      obtain ⟨rest, hrest⟩ := hprefix
      rw [← hrest, hcons, List.cons_append, startsOutside_cons] at hstart
      simpa using hstart
    rw [hcons] at hdigit ⊢
    exact le_ofDigitChars_of_ne_zero (hdigit c (by simp)) hc ds
  · have hlast : significantDigits t =
        (significantDigits t).dropLast ++ [(significantDigits t).getLast hnil] :=
      (List.dropLast_append_getLast hnil).symm
    have hne : ¬ decide ((significantDigits t).getLast hnil = '0') = true :=
      List.rdropWhile_last_not _ _ hnil
    have hd := hdigit _ (List.getLast_mem hnil)
    obtain ⟨hge, -⟩ := Piece.toNat_of_isDigit hd
    have hcode : ((significantDigits t).getLast hnil).toNat ≠ 48 := fun h =>
      hne (decide_eq_true (Char.toNat_inj.mp h))
    rw [hlast, ofDigitChars_concat_mod hd]
    omega

/-- Of two numbers that are equal up to zeros behind them, the one without such zeros is the
smaller one. -/
lemma le_of_mul_pow_eq {v c j k : ℕ} (hv : v % 10 ≠ 0) (h : v * 10 ^ j = c * 10 ^ k) : v ≤ c := by
  rcases Nat.le_total k j with hkj | hjk
  · obtain ⟨i, rfl⟩ := Nat.exists_eq_add_of_le' hkj
    rw [pow_add, ← Nat.mul_assoc] at h
    rw [← Nat.eq_of_mul_eq_mul_right (by positivity) h]
    exact Nat.le_mul_of_pos_right v (by positivity)
  · obtain ⟨i, rfl⟩ := Nat.exists_eq_add_of_le' hjk
    rw [pow_add, ← Nat.mul_assoc] at h
    obtain rfl := Nat.eq_of_mul_eq_mul_right (by positivity) h
    cases i with
    | zero => simp
    | succ i => exact (hv (by rw [pow_succ, ← Nat.mul_assoc, Nat.mul_mod_left])).elim

/-- A number that is at most a power of ten, with zeros behind it or not, has no more significant
digits than the power has zeros. -/
lemma length_significantDigits_le {d : Decimal} {c a k n : ℕ} (hn : 0 < n) (hc : c ≤ 10 ^ n)
    (h : d.coefficient * 10 ^ k = c * 10 ^ a) : (significantDigits d.toText).length ≤ n := by
  obtain ⟨b, hb⟩ := exists_ofDigitChars_eq d.toText
  rw [← coefficient_ofText d.isNumeral_toText, ofText_toText] at hb
  rcases significantDigits_cases d.toText with hnil | ⟨hle, hlast⟩
  · rw [hnil]
    exact Nat.zero_le n
  generalize Nat.ofDigitChars 10 (significantDigits d.toText) 0 = v at hb hle hlast
  rw [hb, Nat.mul_assoc, ← pow_add] at h
  have hv := le_of_mul_pow_eq hlast h
  by_contra hlt
  have hpow : 10 ^ n ≤ 10 ^ ((significantDigits d.toText).length - 1) :=
    Nat.pow_le_pow_right (by decide) (by omega)
  obtain rfl : v = 10 ^ n := by omega
  obtain ⟨j, rfl⟩ : ∃ j, n = j + 1 := ⟨n - 1, by omega⟩
  exact hlast (by rw [pow_succ, Nat.mul_mod_left])

/-- The digits of a number begin with a zero only if there is no other digit. -/
lemma toDigits_eq_zero {n : ℕ} (h : (Nat.toDigits 10 n).head? = some '0') :
    Nat.toDigits 10 n = ['0'] := by
  obtain ⟨ds, hds⟩ := List.head?_eq_some_iff.mp h
  have hdigit := (isDigits_toDigits n).2
  have hvalue := @Nat.ofDigitChars_ten_toDigits n
  have hlength := @Nat.length_toDigits_le_iff 10 n ds.length (by decide)
  rw [hds] at hdigit hvalue hlength
  have hlt : Nat.ofDigitChars 10 ds 0 < 10 ^ ds.length :=
    ofDigitChars_lt fun d hd => hdigit d (List.mem_cons_of_mem _ hd)
  have hn : n < 10 ^ ds.length := by
    rw [ofDigitChars_cons_eq] at hvalue
    change 10 ^ ds.length * 0 + _ = n at hvalue
    omega
  cases ds with
  | nil => exact hds
  | cons d ds =>
    have hle := (hlength (by simp)).mpr hn
    rw [List.length_cons] at hle
    omega

lemma isPlainDecimal_toText {d : Decimal} (h : d.places = 0 ∨ d.coefficient % 10 ≠ 0) :
    IsPlainDecimal d.toText := by
  unfold toText
  split
  · exact .whole d.isDigits_wholeText toDigits_eq_zero
  · next hplaces =>
    refine .point d.isDigits_wholeText toDigits_eq_zero d.isDigits_fractionText fun hlast => ?_
    have hmod := h.resolve_left hplaces
    obtain ⟨ds, hds⟩ := List.getLast?_eq_some_iff.mp hlast
    have hvalue := d.ofDigitChars_fractionText
    obtain ⟨p, hp⟩ : ∃ p, d.places = p + 1 := ⟨d.places - 1, by omega⟩
    have htens : tens d.places = 10 * tens p := by rw [hp, tens_succ, Nat.mul_comm]
    have hzero : Nat.ofDigitChars 10 (ds ++ ['0']) 0 % 10 = 0 :=
      ofDigitChars_concat_mod (by decide) ds
    rw [← hds, hvalue, htens, Nat.mod_mul_right_mod] at hzero
    exact hmod hzero

end LoxLexer

import Mathlib.Logic.Relation
import LoxLexer.Proofs.CorrectRounding
import LoxLexer.Proofs.NumberText

/-!
# The value of a number

The literal of a number is the correctly rounded value of its whole lexeme, however long. Since
correct rounding leaves no choice and keeps the order, zeros in front of a number and behind its
fraction do not change the literal, and a larger number has no smaller literal.
-/
namespace LoxLexer
open Binary64 Piece

/-- The number that digits with an optional point write. -/
def numeralValue (t : List Char) : ℚ :=
  let whole := t.takeWhile (· ≠ '.')
  let fraction := (t.dropWhile (· ≠ '.')).drop 1
  Nat.ofDigitChars 10 whole 0 + Nat.ofDigitChars 10 fraction 0 / 10 ^ fraction.length

/-- Writing further zeros in front of a numeral, at the end of its fraction, or as a fraction of a
numeral that has none. -/
inductive AddsZeros : List Char → List Char → Prop
  | inFront (k : ℕ) (t : List Char) : AddsZeros t (List.replicate k '0' ++ t)
  | behind {whole : List Char} (k : ℕ) (fraction : List Char) (hw : IsDigits whole) :
      AddsZeros (whole ++ '.' :: fraction) (whole ++ '.' :: (fraction ++ List.replicate k '0'))
  | asFraction {whole : List Char} (k : ℕ) (hw : IsDigits whole) :
      AddsZeros whole (whole ++ '.' :: List.replicate k '0')

lemma point_outside_digits {c : Char} (h : c.isDigit) : decide (c ≠ '.') = true := by
  have hne : c ≠ '.' := by
    rintro rfl
    exact absurd h (by decide)
  exact decide_eq_true hne

lemma numeralValue_whole {whole : List Char} (hw : IsDigits whole) :
    numeralValue whole = Nat.ofDigitChars 10 whole 0 := by
  have hrun : ∀ c ∈ whole, decide (c ≠ '.') = true := fun c hc => point_outside_digits (hw.2 c hc)
  have htake := takeWhile_append_run hrun (startsOutside_nil _)
  have hdrop := dropWhile_append_run hrun (startsOutside_nil _)
  rw [List.append_nil] at htake hdrop
  simp only [numeralValue, htake, hdrop]
  simp

lemma numeralValue_point {whole : List Char} (hw : IsDigits whole) (fraction : List Char) :
    numeralValue (whole ++ '.' :: fraction) =
      Nat.ofDigitChars 10 whole 0 + Nat.ofDigitChars 10 fraction 0 / 10 ^ fraction.length := by
  have hrun : ∀ c ∈ whole, decide (c ≠ '.') = true := fun c hc => point_outside_digits (hw.2 c hc)
  have ho : StartsOutside (fun c => decide (c ≠ '.')) ('.' :: fraction) := by simp
  simp only [numeralValue, takeWhile_append_run hrun ho, dropWhile_append_run hrun ho,
    List.drop_one, List.tail_cons]

lemma numeralValue_inFront (k : ℕ) (t : List Char) :
    numeralValue (List.replicate k '0' ++ t) = numeralValue t := by
  have hzeros : ∀ c ∈ List.replicate k '0', decide (c ≠ '.') = true := fun c hc => by
    rw [List.eq_of_mem_replicate hc]
    decide
  simp only [numeralValue, List.takeWhile_append_of_pos hzeros,
    List.dropWhile_append_of_pos hzeros, Nat.ofDigitChars_append, Nat.ofDigitChars_replicate_zero,
    Nat.mul_zero]

lemma AddsZeros.numeralValue_eq {t u : List Char} (h : AddsZeros t u) :
    numeralValue t = numeralValue u := by
  cases h with
  | inFront k => exact (numeralValue_inFront k t).symm
  | @behind whole k fraction hw =>
    have htens : (10 : ℚ) ^ k ≠ 0 := pow_ne_zero k (by norm_num)
    rw [numeralValue_point hw, numeralValue_point hw, Nat.ofDigitChars_append,
      Nat.ofDigitChars_replicate_zero, List.length_append, List.length_replicate, pow_add]
    push_cast
    rw [mul_comm (10 ^ k : ℚ), mul_div_mul_right _ _ htens]
  | asFraction k hw =>
    rw [numeralValue_point hw, numeralValue_whole hw, Nat.ofDigitChars_replicate_zero]
    simp

/-- The decimal that is read from a numeral is its value. -/
lemma numeralValue_eq {t : List Char} (h : IsNumeral t) : numeralValue t =
    (Decimal.ofText t).coefficient / Decimal.tens (Decimal.ofText t).places := by
  have htens : ∀ k, (Decimal.tens k : ℚ) = 10 ^ k := fun k => Nat.cast_pow 10 k
  rcases h with hw | ⟨whole, fraction, hw, -, rfl⟩
  · have htake := takeWhile_append_run hw.2 (startsOutside_nil _)
    have hdrop := dropWhile_append_run hw.2 (startsOutside_nil _)
    rw [List.append_nil] at htake hdrop
    simp [numeralValue_whole hw, Decimal.ofText, htake, hdrop, htens]
  · have ho : StartsOutside Char.isDigit ('.' :: fraction) := by simp
    rw [numeralValue_point hw]
    simp only [Decimal.ofText, takeWhile_append_run hw.2 ho, dropWhile_append_run hw.2 ho,
      List.drop_one, List.tail_cons, Nat.ofDigitChars_append]
    rw [@Nat.ofDigitChars_eq_ofDigitChars_zero fraction (Nat.ofDigitChars 10 whole 0), htens]
    push_cast
    field_simp

/-- A token with a number is a numeral, and the number is what is read from it. -/
lemma number_of_mem_tokens {source : String} {t : Token}
    (ht : t ∈ (Scan.ofSource source).tokens) (hk : t.kind = .number) :
    IsNumeral t.lexeme.toList ∧ t.literal = .number (ofText t.lexeme.toList) := by
  rw [tokens_eq, List.mem_append, List.mem_singleton] at ht
  rcases ht with ht | rfl
  · obtain ⟨e, -, hw, hof⟩ := exists_isTokenOf ht
    obtain ⟨kind, lexeme, literal, line⟩ := t
    obtain rfl : kind = .number := hk
    obtain rfl : lexeme = String.ofList e.piece.text := hof.lexeme
    have hd : Denotes e.piece .number literal := hof.denotes
    cases hd with
    | number hs =>
      rw [String.toList_ofList]
      rw [WellFormed, hs] at hw
      exact ⟨hw, rfl⟩
  · cases hk

lemma roundsTo_of_mem_tokens {source : String} {t : Token}
    (ht : t ∈ (Scan.ofSource source).tokens) (hk : t.kind = .number) :
    ∃ x, t.literal = .number x ∧ RoundsTo (numeralValue t.lexeme.toList) x := by
  obtain ⟨hnum, hlit⟩ := number_of_mem_tokens ht hk
  refine ⟨_, hlit, ?_⟩
  rw [numeralValue_eq hnum]
  exact roundsTo_ofText t.lexeme.toList

lemma numeralValue_eq_of_eqvGen {t u : List Char} (h : Relation.EqvGen AddsZeros t u) :
    numeralValue t = numeralValue u := by
  induction h with
  | rel _ _ h => exact h.numeralValue_eq
  | refl => rfl
  | symm _ _ _ ih => exact ih.symm
  | trans _ _ _ _ _ ih₁ ih₂ => exact ih₁.trans ih₂

/-- Every number of a scan has a numeral as lexeme, and its literal is the correctly rounded value
of this numeral. So zeros in front or at the end of a fraction do not change the literal, and a
number that is not larger has no larger literal. -/
theorem number_roundsTo :
    (∀ (source : String) (t : Token), t ∈ (Scan.ofSource source).tokens → t.kind = .number →
      IsNumeral t.lexeme.toList ∧
        ∃ x, t.literal = .number x ∧ RoundsTo (numeralValue t.lexeme.toList) x) ∧
      ∀ (r s : String) (t u : Token) (x y : Binary64), t ∈ (Scan.ofSource r).tokens →
        u ∈ (Scan.ofSource s).tokens → t.kind = .number → u.kind = .number →
        t.literal = .number x → u.literal = .number y →
          (Relation.EqvGen AddsZeros t.lexeme.toList u.lexeme.toList → x = y) ∧
            (numeralValue t.lexeme.toList ≤ numeralValue u.lexeme.toList → y.isFinite →
              x.isFinite ∧ x.value ≤ y.value) := by
  refine ⟨fun source t ht hk => ⟨(number_of_mem_tokens ht hk).1, roundsTo_of_mem_tokens ht hk⟩,
    fun r s t u x y ht hu htk huk htx huy => ?_⟩
  obtain ⟨x', hx', hx⟩ := roundsTo_of_mem_tokens ht htk
  obtain ⟨y', hy', hy⟩ := roundsTo_of_mem_tokens hu huk
  obtain rfl : x' = x := Literal.number.inj (hx'.symm.trans htx)
  obtain rfl : y' = y := Literal.number.inj (hy'.symm.trans huy)
  refine ⟨fun hzeros => ?_, hx.value_le hy⟩
  rw [numeralValue_eq_of_eqvGen hzeros] at hx
  exact hx.unique hy

/-- The middle between two doubles goes to the even one, and a digit far behind the point decides
against it. -/
theorem number_roundsTo_middle :
    (⟨.number, "9007199254740993", .number (.ofBits 0x4340000000000000), 1⟩ ∈
        (Scan.ofSource "9007199254740993").tokens ∧
      RoundsTo (numeralValue "9007199254740993".toList) (.ofBits 0x4340000000000000)) ∧
    (⟨.number, "9007199254740993.0000000000000000000001", .number (.ofBits 0x4340000000000001), 1⟩ ∈
        (Scan.ofSource "9007199254740993.0000000000000000000001").tokens ∧
      RoundsTo (numeralValue "9007199254740993.0000000000000000000001".toList)
        (.ofBits 0x4340000000000001)) ∧
    (Binary64.ofBits 0x4340000000000000).value ≤ (Binary64.ofBits 0x4340000000000001).value ∧
    Relation.EqvGen AddsZeros "1.5".toList "001.50".toList ∧
    ofText "1.5".toList = ofText "001.50".toList := by
  have hmiddle : ⟨.number, "9007199254740993", .number (.ofBits 0x4340000000000000), 1⟩ ∈
      (Scan.ofSource "9007199254740993").tokens := by decide +kernel
  have hfar : ⟨.number, "9007199254740993.0000000000000000000001",
      .number (.ofBits 0x4340000000000001), 1⟩ ∈
        (Scan.ofSource "9007199254740993.0000000000000000000001").tokens := by decide +kernel
  obtain ⟨-, x, hx, hround⟩ := number_roundsTo.1 _ _ hmiddle rfl
  obtain ⟨-, y, hy, hround'⟩ := number_roundsTo.1 _ _ hfar rfl
  cases hx
  cases hy
  have hle := (number_roundsTo.2 _ _ _ _ _ _ hmiddle hfar rfl rfl rfl rfl).2
  have hplain : ⟨.number, "1.5", .number (ofText "1.5".toList), 1⟩ ∈
      (Scan.ofSource "1.5").tokens := by decide +kernel
  have hpadded : ⟨.number, "001.50", .number (ofText "001.50".toList), 1⟩ ∈
      (Scan.ofSource "001.50").tokens := by decide +kernel
  have hbehind := @AddsZeros.behind ['0', '0', '1'] 1 ['5'] ⟨by simp, by simp [Char.isDigit]⟩
  have hzeros : Relation.EqvGen AddsZeros "1.5".toList "001.50".toList :=
    .trans _ _ _ (.rel _ _ (.inFront 2 ['1', '.', '5'])) (.rel _ _ hbehind)
  have hsame := (number_roundsTo.2 _ _ _ _ _ _ hplain hpadded rfl rfl rfl rfl).1
  exact ⟨⟨hmiddle, hround⟩, ⟨hfar, hround'⟩, (hle (by decide +kernel) (by decide +kernel)).2,
    hzeros, hsame hzeros⟩

end LoxLexer

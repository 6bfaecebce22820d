import LoxLexer.Binary64.Shortest
import LoxLexer.Proofs.ExactRounding
import LoxLexer.Proofs.PieceClass

/-!
# Decimals as texts

The text of a decimal is a numeral and reads back as the same decimal. The shortest decimal of a
finite double is rounded to this double, whatever grid the search for it ends on: each grid is
tried by reading back, and the finest one holds the value itself.
-/
namespace LoxLexer

namespace Decimal

lemma isDigits_toDigits (n : ℕ) : IsDigits (Nat.toDigits 10 n) :=
  ⟨Nat.toDigits_ne_nil, fun _ hc => Nat.isDigit_of_mem_toDigits (by decide) (by decide) hc⟩

lemma isDigits_wholeText (d : Decimal) : IsDigits d.wholeText := isDigits_toDigits _

lemma fractionText_eq (d : Decimal) : ∃ zeros, d.fractionText =
    List.replicate zeros '0' ++ Nat.toDigits 10 (d.coefficient % tens d.places) :=
  ⟨_, rfl⟩

lemma isDigits_fractionText (d : Decimal) : IsDigits d.fractionText := by
  obtain ⟨zeros, h⟩ := d.fractionText_eq
  obtain ⟨hne, hd⟩ := isDigits_toDigits (d.coefficient % tens d.places)
  rw [h]
  refine ⟨by simp [hne], fun c hc => ?_⟩
  rcases List.mem_append.mp hc with hc | hc
  · rw [List.eq_of_mem_replicate hc]
    decide
  · exact hd c hc

lemma length_fractionText {d : Decimal} (h : 0 < d.places) :
    d.fractionText.length = d.places := by
  have hlt : d.coefficient % tens d.places < 10 ^ d.places := Nat.mod_lt _ (tens_pos _)
  have hle := (Nat.length_toDigits_le_iff (by decide) h).mpr hlt
  rw [fractionText, List.leftpad, List.length_append, List.length_replicate]
  omega

lemma isNumeral_toText (d : Decimal) : IsNumeral d.toText := by
  unfold toText
  split
  · exact .inl d.isDigits_wholeText
  · exact .inr ⟨_, _, d.isDigits_wholeText, d.isDigits_fractionText, rfl⟩

lemma ofDigitChars_fractionText (d : Decimal) :
    Nat.ofDigitChars 10 d.fractionText 0 = d.coefficient % tens d.places := by
  obtain ⟨zeros, h⟩ := d.fractionText_eq
  rw [h, Nat.ofDigitChars_append, Nat.ofDigitChars_replicate_zero, Nat.mul_zero,
    Nat.ofDigitChars_ten_toDigits]

/-- Reading takes back writing. -/
lemma ofText_toText (d : Decimal) : ofText d.toText = d := by
  obtain ⟨c, places⟩ := d
  have hwhole := (isDigits_wholeText ⟨c, places⟩).2
  by_cases hp : places = 0
  · subst hp
    have ho := startsOutside_nil Char.isDigit
    have htake := takeWhile_append_run hwhole ho
    have hdrop := dropWhile_append_run hwhole ho
    rw [List.append_nil] at htake hdrop
    have hvalue : Nat.ofDigitChars 10 (wholeText ⟨c, 0⟩) 0 = c := by
      rw [wholeText, Nat.ofDigitChars_ten_toDigits]
      exact Nat.div_one c
    simp [ofText, toText, htake, hdrop, hvalue]
  · have ho : StartsOutside Char.isDigit ('.' :: fractionText ⟨c, places⟩) := by simp
    have hlen : (fractionText ⟨c, places⟩).length = places :=
      length_fractionText (Nat.pos_of_ne_zero hp)
    have hvalue :
        Nat.ofDigitChars 10 (wholeText ⟨c, places⟩ ++ fractionText ⟨c, places⟩) 0 = c := by
      rw [Nat.ofDigitChars_append, Nat.ofDigitChars_eq_ofDigitChars_zero, hlen,
        ofDigitChars_fractionText, wholeText, Nat.ofDigitChars_ten_toDigits]
      exact Nat.div_add_mod c (tens places)
    simp only [ofText, toText, if_neg hp, takeWhile_append_run hwhole ho,
      dropWhile_append_run hwhole ho, List.drop_one, List.tail_cons, hlen, hvalue]

end Decimal

namespace Binary64
open Decimal

lemma nearestDecimal_trim (c p : ℕ) : nearestDecimal (trim c p) = nearestDecimal ⟨c, p⟩ := by
  obtain ⟨hc, hp⟩ := trim_coefficient c p
  have hplaces : tens p = tens (trim c p).places * tens (p - (trim c p).places) := by
    rw [← tens_add]
    congr 1
    omega
  calc nearestDecimal (trim c p)
      = nearest ((trim c p).coefficient * tens (p - (trim c p).places))
          (tens (trim c p).places * tens (p - (trim c p).places)) :=
        (nearest_mul_right _ _ (tens_pos _)).symm
    _ = nearestDecimal ⟨c, p⟩ := by rw [hc, ← hplaces, nearestDecimal]

/-- On the finest grid stands the double itself. -/
lemma readsBack_decimalUnits {m : ℕ} (h : m < infinity) : readsBack m 0 (decimalUnits m) := by
  have hone : tens 0 = 1 := rfl
  have htens : ∀ k, tens k = twos k * Nat.pow 5 k := fun k => Nat.mul_pow 2 5 k
  have hfives : ∀ k, 0 < Nat.pow 5 k := fun _ => Nat.pow_pos (by decide)
  have hexact := nearest_mul_right (units m) (twos unitPlaces) (hfives unitPlaces)
  rw [nearest_units h, ← htens] at hexact
  rw [readsBack, decide_eq_true_eq, nearestDecimal, ofGrid, Nat.zero_sub, Nat.sub_zero, hone,
    Nat.mul_one]
  exact hexact

lemma reads_of_pick {reads : ℕ → Bool} {below steps : ℕ} {nearer : Bool}
    (h : pick below (reads below) (reads (below + 1)) nearer = some steps) : reads steps := by
  cases hb : reads below with
  | false =>
    cases ha : reads (below + 1) with
    | false => simp [pick, hb, ha] at h
    | true =>
      obtain rfl : below + 1 = steps := by simpa [pick, hb, ha] using h
      exact ha
  | true =>
    cases ha : reads (below + 1) with
    | false =>
      obtain rfl : below = steps := by simpa [pick, hb, ha] using h
      exact hb
    | true =>
      obtain rfl : (if nearer then below else below + 1) = steps := by
        simpa [pick, hb, ha] using h
      split
      · exact hb
      · exact ha

lemma readsBack_neighbour? {m e steps : ℕ} (h : neighbour? m e = some steps) :
    readsBack m e steps := by
  rw [neighbour?] at h
  exact reads_of_pick h

/-- What holds of every find holds of the one that the search ends with. -/
lemma findDown_induction {P : ℕ → ℕ → Prop} {find? : ℕ → Option ℕ} {last : ℕ} (hlast : P 0 last)
    (hfind : ∀ e steps, find? e = some steps → P e steps) (e : ℕ) :
    P (findDown find? last e).1 (findDown find? last e).2 := by
  induction e with
  | zero => exact hlast
  | succ e ih =>
    unfold findDown
    split
    · next steps hs => exact hfind (e + 1) steps hs
    · exact ih

lemma readsBack_coarsest {m : ℕ} (h : m < infinity) (e : ℕ) :
    readsBack m (coarsest m e).1 (coarsest m e).2 :=
  findDown_induction (P := fun e steps => readsBack m e steps) (readsBack_decimalUnits h)
    (fun _ _ => readsBack_neighbour?) e

lemma nearestDecimal_shortest {m : ℕ} (h : m < infinity) : nearestDecimal (shortest m) = m := by
  have hback := readsBack_coarsest h (leadingPlace (decimalUnits m))
  rw [readsBack, decide_eq_true_eq] at hback
  rw [shortest, nearestDecimal_trim]
  exact hback

/-- The text of a finite double without its sign reads back as its absolute value. -/
lemma ofText_toText_shortest {m : ℕ} (h : m < infinity) :
    ofText (shortest m).toText = ofMagnitude false m := by
  rw [ofText, Decimal.ofText_toText, nearestDecimal_shortest h]

end Binary64
end LoxLexer

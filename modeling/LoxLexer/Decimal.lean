/-!
# Plain decimals

A decimal is a whole number of units of its last place. `ofText` reads digits with an optional
point, which is the form that `isNumeral` asks for. `toText` writes them in positional form, and
`trim` drops the zeros at the end of the fraction. The texts have no sign and no exponent.
-/
namespace LoxLexer

/-- The number `coefficient / 10 ^ places`. -/
structure Decimal where
  coefficient : Nat
  places : Nat
  deriving DecidableEq, Repr

namespace Decimal

def tens (k : Nat) : Nat := Nat.pow 10 k

/-- Reads digits, and after a point the digits of the fraction. -/
def ofText (text : List Char) : Decimal :=
  let whole := text.takeWhile Char.isDigit
  let fraction := (text.dropWhile Char.isDigit).drop 1
  ⟨Nat.ofDigitChars 10 (whole ++ fraction) 0, fraction.length⟩

/-- Whether a text has digits only, or one point with a digit on at least one side. -/
def isNumeral (text : List Char) : Bool :=
  match text.dropWhile Char.isDigit with
  | [] => !text.isEmpty
  | c :: fraction => c = '.' && fraction.all Char.isDigit && 1 < text.length

/-- The digits of the whole part, without leading zeros. -/
def wholeText (d : Decimal) : List Char :=
  Nat.toDigits 10 (d.coefficient / tens d.places)

/-- The digits of the fraction, one for each place. -/
def fractionText (d : Decimal) : List Char :=
  (Nat.toDigits 10 (d.coefficient % tens d.places)).leftpad d.places '0'

/-- A decimal without places is written without a point. -/
def toText (d : Decimal) : List Char :=
  if d.places = 0 then d.wholeText else d.wholeText ++ '.' :: d.fractionText

/-- Drops zeros from the end of the fraction and keeps the value. -/
def trim (coefficient : Nat) : (places : Nat) → Decimal
  | 0 => ⟨coefficient, 0⟩
  | places + 1 =>
    if coefficient % 10 = 0 then trim (coefficient / 10) places
    else ⟨coefficient, places + 1⟩

/-- The decimal `steps` units of `10 ^ exponent / 10 ^ origin`. -/
def ofGrid (origin exponent steps : Nat) : Decimal :=
  ⟨steps * tens (exponent - origin), origin - exponent⟩

theorem tens_succ (k : Nat) : tens (k + 1) = tens k * 10 := rfl

/-- Trimming rescales the coefficient by a power of ten. -/
theorem trim_coefficient (c p : Nat) :
    (trim c p).coefficient * tens (p - (trim c p).places) = c ∧ (trim c p).places ≤ p := by
  induction p generalizing c with
  | zero => simp [trim, tens]
  | succ p ih =>
    by_cases h : c % 10 = 0
    · obtain ⟨hc, hp⟩ := ih (c / 10)
      simp only [trim, h, if_true]
      refine ⟨?_, by omega⟩
      rw [Nat.succ_sub hp, tens_succ, ← Nat.mul_assoc, hc]
      omega
    · simp [trim, h, tens]

theorem trim_last (c p : Nat) :
    (trim c p).places = 0 ∨ (trim c p).coefficient % 10 ≠ 0 := by
  induction p generalizing c with
  | zero => simp [trim]
  | succ p ih =>
    by_cases h : c % 10 = 0
    · simpa [trim, h] using ih (c / 10)
    · simp [trim, h]

end Decimal
end LoxLexer

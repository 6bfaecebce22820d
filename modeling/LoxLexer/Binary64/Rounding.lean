import LoxLexer.Decimal
import LoxLexer.Binary64.Basic

/-!
# Rounding to the nearest double

`nearest` takes a ratio of natural numbers to the magnitude of the nearest double, and to the one
with the even significand when two are equally near. It scales the ratio to units `2 ^ -1074`,
finds the binade of the whole part, and rounds once to a multiple of that binade's spacing. A
significand that rounds up to the next power of two carries into the exponent field by itself.
-/
namespace LoxLexer.Binary64

/-- The whole number nearest to `num / den`; a half goes to the even neighbour. -/
def roundHalfEven (num den : Nat) : Nat :=
  let below := num / den
  let remainder := num % den
  if 2 * remainder < den then below
  else if den < 2 * remainder then below + 1
  else below + below % 2

/-- The magnitude nearest to `num / den`; ratios beyond the finite doubles give infinity. -/
def nearest (num den : Nat) : Nat :=
  let scaled := num * twos unitPlaces
  let shift := (scaled / den).log2 - 52
  min infinity (shift * exponentBit + roundHalfEven scaled (den * twos shift))

def nearestDecimal (d : Decimal) : Nat := nearest d.coefficient (Decimal.tens d.places)

/-- Reads a numeral without a sign. -/
def ofText (text : List Char) : Binary64 :=
  ofMagnitude false (nearestDecimal (Decimal.ofText text))

/-- Reads a text that may be no numeral. Signs and exponents do not occur. -/
def ofText? (text : List Char) : Option Binary64 :=
  if Decimal.isNumeral text then some (ofText text) else none

theorem nearest_le_infinity (num den : Nat) : nearest num den ≤ infinity := Nat.min_le_left ..

theorem infinity_lt : infinity < signBit := by decide

theorem ofText_magnitude (text : List Char) :
    (ofText text).magnitude = nearestDecimal (Decimal.ofText text) :=
  ofMagnitude_magnitude _ (Nat.lt_of_le_of_lt (nearest_le_infinity ..) infinity_lt)

theorem ofText_negative (text : List Char) : (ofText text).negative = false := rfl

theorem ofText_isNaN (text : List Char) : (ofText text).isNaN = false := by
  simp only [isNaN, ofText_magnitude, decide_eq_false_iff_not, Nat.not_lt]
  exact nearest_le_infinity ..

end LoxLexer.Binary64

/-!
# Double precision numbers

A double is a sign and a magnitude. The magnitude is the exponent field followed by the fraction
field, read as one number: it orders the doubles of one sign, infinity comes right after the
largest finite one, and everything above infinity is not a number. A finite double is a whole
number of units `2 ^ -1074`.
-/
namespace LoxLexer

/-- The sixty-four bits of a double: the sign bit and the other sixty-three. -/
structure Binary64 where
  negative : Bool
  magnitude : Nat
  magnitude_lt : magnitude < 0x8000000000000000
  deriving DecidableEq

namespace Binary64

/-- The sign bit, which is also the number of magnitudes. -/
def signBit : Nat := 0x8000000000000000

def infinity : Nat := 0x7ff0000000000000

/-- The lowest exponent bit, which is also the number of fractions. -/
def exponentBit : Nat := 0x10000000000000

/-- The power of two that is the unit of all finite doubles, with its sign changed. -/
def unitPlaces : Nat := 1074

def twos (k : Nat) : Nat := Nat.pow 2 k

def ofMagnitude (negative : Bool) (magnitude : Nat) : Binary64 :=
  ⟨negative, magnitude % signBit, Nat.mod_lt _ (by decide)⟩

def ofBits (bits : Nat) : Binary64 :=
  ofMagnitude (bits / signBit % 2 = 1) bits

def toBits (x : Binary64) : Nat :=
  (if x.negative then signBit else 0) + x.magnitude

def isFinite (x : Binary64) : Bool := x.magnitude < infinity

def isNaN (x : Binary64) : Bool := infinity < x.magnitude

/-- Equality of numbers: no NaN equals anything, and the two zeros are equal. -/
def sameNumber (x y : Binary64) : Bool :=
  !x.isNaN && !y.isNaN && (x == y || (x.magnitude == 0 && y.magnitude == 0))

/-- The significand counts `2 ^ shift` units; the two lowest binades have the same spacing. -/
def shift (magnitude : Nat) : Nat := magnitude / exponentBit - 1

/-- The fraction, with the leading bit that all but the smallest doubles have. -/
def significand (magnitude : Nat) : Nat :=
  if magnitude < exponentBit then magnitude else exponentBit + magnitude % exponentBit

/-- The absolute value of a finite double in units `2 ^ -1074`. -/
def units (magnitude : Nat) : Nat := significand magnitude * twos (shift magnitude)

theorem ofMagnitude_magnitude {m : Nat} (s : Bool) (h : m < signBit) :
    (ofMagnitude s m).magnitude = m := Nat.mod_eq_of_lt h

theorem toBits_ofBits {n : Nat} (h : n < 2 * signBit) : (ofBits n).toBits = n := by
  unfold signBit at h
  rcases Nat.mod_two_eq_zero_or_one (n / signBit) with hs | hs <;>
    simp [toBits, ofBits, ofMagnitude, hs] <;> unfold signBit at * <;> omega

theorem ofBits_toBits (x : Binary64) : ofBits x.toBits = x := by
  obtain ⟨s, m, h⟩ := x
  cases s <;> simp [toBits, ofBits, ofMagnitude, signBit] <;> omega

theorem toBits_lt (x : Binary64) : x.toBits < 2 * signBit := by
  have := x.magnitude_lt
  simp only [toBits, signBit]
  split <;> omega

end Binary64
end LoxLexer

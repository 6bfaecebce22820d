import LoxLexer.Binary64.Rounding

/-!
# The shortest decimal of a double

`shortest` is the decimal with the fewest digits that reads back as the given finite double. Every
finite double is a whole number of `10 ^ -1074`, so the search runs through the grids of spacing
`10 ^ k` of those units, from one digit to all of them, and stops at the first grid on which one of
the double's two neighbours reads back. Of two such neighbours the nearer one is taken, and the
upper one when they are equally near.
-/
namespace LoxLexer.Binary64

/-- The absolute value of a finite double in units `10 ^ -1074`. -/
def decimalUnits (magnitude : Nat) : Nat := units magnitude * Nat.pow 5 unitPlaces

def readsBack (magnitude exponent steps : Nat) : Bool :=
  nearestDecimal (Decimal.ofGrid unitPlaces exponent steps) = magnitude

/-- The one of two neighbours that reads back. If both do, it is the nearer one, and the upper one
when they are equally near. -/
def pick (below : Nat) (belowReads aboveReads belowIsNearer : Bool) : Option Nat :=
  match belowReads, aboveReads with
  | true, true => some (if belowIsNearer then below else below + 1)
  | true, false => some below
  | false, true => some (below + 1)
  | false, false => none

/-- The neighbour on the grid of spacing `10 ^ exponent` that reads back, if there is one. -/
def neighbour? (magnitude exponent : Nat) : Option Nat :=
  let value := decimalUnits magnitude
  let spacing := Decimal.tens exponent
  let below := value / spacing
  pick below (readsBack magnitude exponent below) (readsBack magnitude exponent (below + 1))
    (2 * (value % spacing) < spacing)

/-- The largest exponent up to the given one at which something is found, with what is found there.
Exponent zero has a find of its own. -/
def findDown (find? : Nat → Option Nat) (last : Nat) : (exponent : Nat) → Nat × Nat
  | 0 => (0, last)
  | exponent + 1 =>
    match find? (exponent + 1) with
    | some steps => (exponent + 1, steps)
    | none => findDown find? last exponent

/-- The exponent of the coarsest grid that has a neighbour, and that neighbour's step count. -/
def coarsest (magnitude exponent : Nat) : Nat × Nat :=
  findDown (neighbour? magnitude) (decimalUnits magnitude) exponent

/-- The largest exponent at most `exponent` whose power of ten is at most `n`, or zero. -/
def leadingPlaceFrom (n : Nat) : (exponent : Nat) → Nat
  | 0 => 0
  | exponent + 1 =>
    if Decimal.tens (exponent + 1) ≤ n then exponent + 1 else leadingPlaceFrom n exponent

/-- The place of the first digit of `n`. It starts above it because `2 ^ 93 < 10 ^ 28`. -/
def leadingPlace (n : Nat) : Nat := leadingPlaceFrom n (28 * (n.log2 / 93 + 1))

def shortest (magnitude : Nat) : Decimal :=
  let found := coarsest magnitude (leadingPlace (decimalUnits magnitude))
  let d := Decimal.ofGrid unitPlaces found.1 found.2
  Decimal.trim d.coefficient d.places

/-- The text of a double: a plain decimal, or a word for infinity and NaN. -/
def toText (x : Binary64) : List Char :=
  if x.isNaN then ['N', 'a', 'N']
  else
    (if x.negative then ['-'] else []) ++
      (if x.isFinite then (shortest x.magnitude).toText else ['i', 'n', 'f'])

end LoxLexer.Binary64

/-!
# Shortest decimals

A binary floating-point number stands for every real number that rounds to it.
Its shortest decimal is the point of that interval which lies on the coarsest
power-of-ten grid, and on that grid the point nearest to the number itself; of
two equally near points the even one.

All arithmetic is exact: a positive number is `mantissa * 2 ^ exponent`, and
bounds are kept as numerators over a common denominator.
-/

namespace Baseline

/-- A positive binary floating-point number. -/
structure Binary where
  /-- The significant bits as a whole number. -/
  mantissa : Nat
  /-- The power of two that scales them. -/
  exponent : Int
  /-- The next smaller number is only half as far away as the next larger. -/
  narrow : Bool
  deriving Repr

/-- A whole number scaled by a power of ten. -/
structure Decimal where
  /-- The digits as a whole number. -/
  digits : Nat
  /-- The power of ten that scales them. -/
  exponent : Int
  deriving DecidableEq, Repr

namespace Binary

/-- Four times the power of two that divides a number with this exponent. -/
def denominator (number : Binary) : Nat :=
  4 * Nat.pow 2 (-number.exponent).toNat

/-- A quarter of the distance to the next larger number, over the
denominator. -/
def quarter (number : Binary) : Nat :=
  Nat.pow 2 number.exponent.toNat

/-- The number itself, over the denominator. -/
def numerator (number : Binary) : Nat :=
  4 * number.mantissa * number.quarter

/-- The lower end of the interval that rounds to the number. -/
def lower (number : Binary) : Nat :=
  number.numerator - (if number.narrow then 1 else 2) * number.quarter

/-- The upper end of the interval that rounds to the number. -/
def upper (number : Binary) : Nat :=
  number.numerator + 2 * number.quarter

/-- A ratio rounds to the number; the ends of the interval do so when the
mantissa is even. -/
def accepts (number : Binary) (above below : Nat) : Bool :=
  if number.mantissa % 2 = 0 then
    decide (number.lower * below ≤ above * number.denominator ∧
      above * number.denominator ≤ number.upper * below)
  else
    decide (number.lower * below < above * number.denominator ∧
      above * number.denominator < number.upper * below)

/-- A decimal as a ratio of whole numbers. -/
def ratio (decimal : Decimal) : Nat × Nat :=
  (decimal.digits * Nat.pow 10 decimal.exponent.toNat, Nat.pow 10 (-decimal.exponent).toNat)

/-- The decimal rounds to the number. -/
def acceptsDecimal (number : Binary) (decimal : Decimal) : Bool :=
  let (above, below) := ratio decimal
  decimal.digits ≠ 0 && number.accepts above below

/-- The point of the grid with the given exponent that rounds to the number and
is nearest to it, if there is one. -/
def onGrid? (number : Binary) (exponent : Int) : Option Decimal :=
  let above := number.numerator * Nat.pow 10 (-exponent).toNat
  let below := number.denominator * Nat.pow 10 exponent.toNat
  let floor := above / below
  let doubled := 2 * (above % below)
  let down : Decimal := ⟨floor, exponent⟩
  let up : Decimal := ⟨floor + 1, exponent⟩
  let preferDown := doubled < below || (doubled = below && floor % 2 = 0)
  if number.acceptsDecimal down && (preferDown || !number.acceptsDecimal up) then some down
  else if number.acceptsDecimal up then some up
  else none

/-- The first grid with a point that rounds to the number, from an exponent
downwards. -/
def searchGrids (number : Binary) : Nat → Int → Option Decimal
  | 0, _ => none
  | steps + 1, exponent =>
      match number.onGrid? exponent with
      | some decimal => some decimal
      | none => searchGrids number steps (exponent - 1)

/-- The shortest decimal of a number.  The grids from `10 ^ 308` to
`10 ^ (-324)` serve every double. -/
def shortest (number : Binary) : Decimal :=
  (number.searchGrids 633 308).getD ⟨number.mantissa, 0⟩

/-- The magnitude of a double, if it is neither zero nor infinite nor an
error. -/
def ofBits? (bits : Nat) : Option Binary :=
  let fraction : Nat := bits % Nat.pow 2 52
  let biased : Nat := bits / Nat.pow 2 52 % Nat.pow 2 11
  if biased = 2047 then none
  else if biased = 0 then
    if fraction = 0 then none else some ⟨fraction, -1074, false⟩
  else some ⟨Nat.pow 2 52 + fraction, (biased : Int) - 1075, fraction = 0 && 1 < biased⟩

end Binary
end Baseline

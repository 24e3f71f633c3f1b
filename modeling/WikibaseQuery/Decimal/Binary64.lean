/-!
# Finite binary64 numbers

Amounts are finite numbers of the 64-bit binary interchange format.  The format also has infinities
and values that are not a number, but no JSON text is read as one of them, so that no amount is.
A finite number is kept as sign, coefficient and scale, and its magnitude is `coefficient * 2 ^ scale`
units of `2 ^ (-1074)`, the smallest positive number of the format.  The form is canonical, so
equality of the data is equality of the numbers, zero and minus zero apart.

* `Binary64.round?` is the number nearest to a fraction of units, a half going to the even
  coefficient; it has no answer exactly where the format overflows.
* `Binary64.ofDecimal?` reads a decimal `digits * 10 ^ exponent` by that rule.

Powers are applications of `Nat.pow`, so that they do not depend on which instance `^` finds.
-/

namespace WikibaseQuery

/-- A finite number of the 64-bit binary format; its infinities and what is not a number are left
out, since no amount is one. -/
structure Binary64 where
  /-- The sign bit; zero has two signs. -/
  negative : Bool
  /-- The whole-number coefficient, of at most 53 bits. -/
  coefficient : Nat
  /-- The power of two that counts units of `2 ^ (-1074)`. -/
  scale : Nat
  coefficient_lt : coefficient < Nat.pow 2 53
  scale_le : scale ≤ 2045
  /-- Only numbers of the smallest scale have fewer than 53 bits. -/
  canonical : scale = 0 ∨ Nat.pow 2 52 ≤ coefficient
  deriving DecidableEq

/-- The decimal number `digits * 10 ^ exponent`. -/
structure Decimal where
  digits : Nat
  exponent : Int
  deriving DecidableEq, Repr

/-- `numerator / denominator` to the nearest whole number, a half to the even neighbour. -/
def roundHalfEven (numerator denominator : Nat) : Nat :=
  let quotient := numerator / denominator
  let twice := 2 * (numerator % denominator)
  if twice < denominator ∨ (twice = denominator ∧ quotient % 2 = 0) then quotient
  else quotient + 1

namespace Binary64

/-! ## Magnitude and sign -/

/-- The magnitude, counted in units of `2 ^ (-1074)`. -/
def units (x : Binary64) : Nat := x.coefficient * Nat.pow 2 x.scale

/-- Zero with the given sign. -/
def zero (negative : Bool) : Binary64 :=
  ⟨negative, 0, 0, by decide, by decide, .inl rfl⟩

/-- The number of these three parts, if they are canonical. -/
def ofParts? (negative : Bool) (coefficient scale : Nat) : Option Binary64 :=
  if h : coefficient < Nat.pow 2 53 ∧ scale ≤ 2045 ∧
      (scale = 0 ∨ Nat.pow 2 52 ≤ coefficient) then
    some ⟨negative, coefficient, scale, h.1, h.2.1, h.2.2⟩
  else
    none

/-- A number is made of its parts. -/
@[simp] theorem ofParts?_self (x : Binary64) :
    ofParts? x.negative x.coefficient x.scale = some x :=
  dif_pos ⟨x.coefficient_lt, x.scale_le, x.canonical⟩

/-! ## Rounding -/

/-- The number nearest to `numerator / denominator` units.  The scale is the one at which the whole
part of the quotient has 53 bits (or zero); rounding up to `2 ^ 53` moves to the next scale.
`none` when the number is too large for the format. -/
def round? (negative : Bool) (numerator denominator : Nat) : Option Binary64 :=
  let scale := (numerator / denominator).log2 - 52
  let coefficient := roundHalfEven numerator (denominator * Nat.pow 2 scale)
  if coefficient = Nat.pow 2 53 then ofParts? negative (Nat.pow 2 52) (scale + 1)
  else ofParts? negative coefficient scale

/-- The decimal as a fraction of units of `2 ^ (-1074)`. -/
def fraction (d : Decimal) : Nat × Nat :=
  (d.digits * Nat.pow 2 1074 * Nat.pow 10 d.exponent.toNat, Nat.pow 10 (-d.exponent).toNat)

/-- The number nearest to a decimal.  A decimal of at least `10 ^ 311` is out of range and one below
`10 ^ (-330)` is zero; these two are told from the sizes alone, so that a huge exponent costs
nothing. -/
def ofDecimal? (negative : Bool) (d : Decimal) : Option Binary64 :=
  if d.digits = 0 then some (zero negative)
  else if d.exponent > 310 then none
  else if d.exponent + (d.digits.log2 / 3 + 1 : Nat) < -330 then some (zero negative)
  else round? negative (fraction d).1 (fraction d).2

end Binary64

end WikibaseQuery

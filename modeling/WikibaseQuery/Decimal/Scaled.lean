import WikibaseQuery.Decimal.Binary64

/-!
# Numbers scaled by powers of ten

A decimal can be read in steps: its digits, a power of ten, and their product or quotient, each
rounded on its own.  `Binary64.scaled?` reads it so.  The result need not be the number nearest to
the decimal, which `Binary64.ofDecimal?` gives; it is, where the digits and the power of ten are
numbers of the format themselves.
-/

namespace WikibaseQuery.Binary64

/-! ## Products and quotients -/

/-- The product, rounded; `none` when it is too large for the format. -/
def mul? (x y : Binary64) : Option Binary64 :=
  round? (x.negative != y.negative) (x.units * y.units) (Nat.pow 2 1074)

/-- The quotient, rounded; `none` when it is too large for the format, or the divisor is zero. -/
def div? (x y : Binary64) : Option Binary64 :=
  if y.units = 0 then none
  else round? (x.negative != y.negative) (x.units * Nat.pow 2 1074) y.units

/-! ## Powers of ten -/

/-- The power of ten, rounded; the last one in the format is `10 ^ 308`. -/
def tenTo? (power : Nat) : Option Binary64 := ofDecimal? false ⟨1, power⟩

/-- The number divided by `10 ^ 308` some times over.  Zero is not divided. -/
def shrink? (x : Binary64) : Nat → Option Binary64
  | 0 => some x
  | times + 1 =>
    if x.units = 0 then some x
    else do
      let quotient ← x.div? (← tenTo? 308)
      quotient.shrink? times

/-- The digits, multiplied or divided by a power of ten, each step rounded.  A power that is too
large for the format is out of range, unless there is nothing to multiply; one that is too small is
divided by in parts, `10 ^ 308` first, as often as it takes. -/
def scaled? (negative : Bool) (d : Decimal) : Option Binary64 := do
  let digits ← ofDecimal? negative ⟨d.digits, 0⟩
  if 0 ≤ d.exponent then
    if digits.units = 0 then return digits
    digits.mul? (← tenTo? d.exponent.toNat)
  else
    let places := (-d.exponent).toNat
    let times := (places - 1) / 308
    let part ← digits.shrink? times
    part.div? (← tenTo? (places - 308 * times))

end WikibaseQuery.Binary64

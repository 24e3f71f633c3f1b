import WikibaseQuery.Decimal.Binary64

/-!
# The shortest decimal that reads back

Of the decimals that `Binary64.ofDecimal?` reads as a given number, `Binary64.shortest` has the
fewest digits, and of those it is the nearest to the number.  Where the two neighbours on the grid
are equally near, a `Tie` decides.
-/

namespace WikibaseQuery

/-- Which of two equally near decimals is taken. -/
inductive Tie where
  /-- The larger magnitude. -/
  | away
  /-- The one with the even last digit. -/
  | even
  deriving DecidableEq, Repr

namespace Decimal

/-- The decimal without its trailing zeros, of which there are no more than `count`. -/
def dropZeros : Nat → Decimal → Decimal
  | 0, d => d
  | count + 1, d =>
    if d.digits % 10 = 0 then dropZeros count ⟨d.digits / 10, d.exponent + 1⟩ else d

/-- The same number without trailing zeros in its digits. -/
def reduce (d : Decimal) : Decimal :=
  if d.digits = 0 then d else dropZeros (Nat.toDigits 10 d.digits).length d

end Decimal

namespace Binary64

/-- The power of ten of the leading digit.  Every positive number is at least `10 ^ (-324)`, so that
`10 ^ 342` times it has a whole part that shows the leading digit. -/
def leadingPower (x : Binary64) : Int :=
  ((Nat.toDigits 10 (x.units * Nat.pow 10 342 / Nat.pow 2 1074)).length : Int) - 343

/-- Whether the decimal is read as `x`. -/
def readsBack (x : Binary64) (d : Decimal) : Bool :=
  ofDecimal? x.negative d == some x

/-- The magnitude counted in steps of `10 ^ power`, as a fraction. -/
def inSteps (x : Binary64) (power : Int) : Nat × Nat :=
  (x.units * Nat.pow 10 (-power).toNat, Nat.pow 2 1074 * Nat.pow 10 power.toNat)

/-- The multiple of `10 ^ power` that reads back as `x`; of two such neighbours the nearer. -/
def onGrid? (tie : Tie) (x : Binary64) (power : Int) : Option Decimal :=
  let (numerator, denominator) := x.inSteps power
  let low := numerator / denominator
  let twice := 2 * (numerator % denominator)
  let below : Decimal := ⟨low, power⟩
  let above : Decimal := ⟨low + 1, power⟩
  match x.readsBack below, x.readsBack above with
  | true, true =>
    if twice < denominator then some below
    else if denominator < twice then some above
    else if tie = .even ∧ low % 2 = 0 then some below
    else some above
  | true, false => some below
  | false, true => some above
  | false, false => none

/-- All digits of the number. -/
def exact (x : Binary64) : Decimal := ⟨x.units * Nat.pow 5 1074, -1074⟩

/-- The fewest digits that read back as `x`.  Seventeen always suffice. -/
def shortest (tie : Tie) (x : Binary64) : Decimal :=
  if x.units = 0 then ⟨0, 0⟩
  else
    let grids := (List.range 17).map fun (n : Nat) => x.leadingPower - n
    ((grids.findSome? (x.onGrid? tie)).getD x.exact).reduce

end Binary64

end WikibaseQuery

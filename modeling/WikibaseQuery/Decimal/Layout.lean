import WikibaseQuery.Decimal.Shortest

/-!
# Layouts of a number

A text format chooses how the shortest digits of a number are set out.  `Layout` holds those
choices, one value for each format, and `Binary64.text` sets a number out by them.
-/

namespace WikibaseQuery

/-- How the digits of a number are set out. -/
structure Layout where
  /-- Which of two equally near shortest decimals is written. -/
  tie : Tie
  /-- Whether a whole number written in full ends in `.0`. -/
  pointOnWhole : Bool
  /-- The powers of ten of the leading digit for which the number is written in full. -/
  positional : Int → Bool

/-- The digits with a decimal point after the first `point` of them. -/
def positionalText (pointOnWhole : Bool) (digits : List Char) (point : Int) : List Char :=
  if point ≤ 0 then
    '0' :: '.' :: (List.replicate (-point).toNat '0' ++ digits)
  else if digits.length ≤ point.toNat then
    digits ++ List.replicate (point.toNat - digits.length) '0' ++
      (if pointOnWhole then ['.', '0'] else [])
  else
    digits.take point.toNat ++ '.' :: digits.drop point.toNat

/-- One digit before the point, and the power of ten with its sign. -/
def exponentText (digits : List Char) (power : Int) : List Char :=
  let fraction := digits.drop 1
  digits.take 1 ++ (if fraction = [] then [] else '.' :: fraction) ++
    'e' :: (if power < 0 then '-' else '+') :: Nat.toDigits 10 power.natAbs

/-- The number as the layout sets it out. -/
def Binary64.text (layout : Layout) (x : Binary64) : List Char :=
  let d := x.shortest layout.tie
  let digits := Nat.toDigits 10 d.digits
  let point := digits.length + d.exponent
  (if x.negative then ['-'] else []) ++
    (if layout.positional (point - 1) then positionalText layout.pointOnWhole digits point
     else exponentText digits (point - 1))

end WikibaseQuery

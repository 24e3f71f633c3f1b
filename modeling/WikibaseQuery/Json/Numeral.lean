import WikibaseQuery.Decimal.Scaled
import WikibaseQuery.Json.Problem
import WikibaseQuery.Json.Value

/-!
# Numerals

A numeral is the spelling of a JSON number: sign, whole part, fraction, exponent.  `Numeral.read`
cuts one off the front of a text, and `Numeral.number?` gives its value.
-/

namespace WikibaseQuery

/-- The spelling of a JSON number. -/
structure Numeral where
  negative : Bool
  /-- The digits before the point. -/
  whole : List Char
  /-- The digits after the point; none where there is no point. -/
  fraction : List Char
  /-- The power of ten, where one is written. -/
  exponent : Option Int
  deriving DecidableEq, Repr

/-- A numeral breaks off: at the end of the text, or at a character that cannot stand there. -/
structure BrokenNumeral where
  atEnd : Bool
  deriving DecidableEq, Repr

namespace Numeral

/-! ## Value -/

/-- The digits put after those of a number, as long as 64 bits hold it, and how many are left. -/
def fill (n : Nat) : List Char → Nat × Nat
  | [] => (n, 0)
  | digit :: digits =>
    let next := 10 * n + (digit.toNat - '0'.toNat)
    if next < UInt64.size then fill next digits else (n, digits.length + 1)

/-- The decimal that is kept of a numeral: 64 bits of its digits.  A digit before the point that is
left counts as a zero; one after the point does not count. -/
def kept (n : Numeral) : Decimal :=
  let (whole, wholeLeft) := fill 0 n.whole
  let (digits, fractionLeft) := fill whole n.fraction
  ⟨digits, n.exponent.getD 0 + wholeLeft - (n.fraction.length - fractionLeft : Nat)⟩

/-- The value as a number of the format, `none` when it is too large. -/
def float? (n : Numeral) : Option Binary64 := Binary64.scaled? n.negative n.kept

/-- The value, `none` when it is too large.  Minus zero is no integer. -/
def number? (n : Numeral) : Option Number :=
  let digits := Nat.ofDigitChars 10 n.whole 0
  if n.fraction = [] ∧ n.exponent = none then
    if n.negative then
      if digits ≠ 0 ∧ digits ≤ UInt64.size / 2 then some (.integer (-digits))
      else n.float?.map Number.float
    else if digits < UInt64.size then some (.integer digits)
    else n.float?.map Number.float
  else n.float?.map Number.float

/-! ## Reading -/

/-- One or more digits. -/
def readDigits (cs : List Char) : Except BrokenNumeral (List Char × List Char) :=
  let digits := cs.takeWhile Char.isDigit
  let rest := cs.dropWhile Char.isDigit
  if digits = [] then .error ⟨rest.isEmpty⟩ else .ok (digits, rest)

/-- The digits before the point: a lone zero, or digits that start with no zero. -/
def readWhole (cs : List Char) : Except BrokenNumeral (List Char × List Char) := do
  let (digits, rest) ← readDigits cs
  if digits.head? = some '0' ∧ digits.length ≠ 1 then .error ⟨false⟩ else .ok (digits, rest)

/-- A point with the digits after it, if there is a point. -/
def readFraction : List Char → Except BrokenNumeral (List Char × List Char)
  | '.' :: rest => readDigits rest
  | rest => .ok ([], rest)

/-- The mark of the exponent with its sign and digits, if there is a mark. -/
def readExponent : List Char → Except BrokenNumeral (Option Int × List Char)
  | c :: rest =>
    if c = 'e' ∨ c = 'E' then do
      let (negative, rest) := match rest with
        | '-' :: rest => (true, rest)
        | '+' :: rest => (false, rest)
        | rest => (false, rest)
      let (digits, rest) ← readDigits rest
      let power : Int := Nat.ofDigitChars 10 digits 0
      return (some (if negative then -power else power), rest)
    else .ok (none, c :: rest)
  | [] => .ok (none, [])

/-- The numeral at the front of a text, with what follows it. -/
def read (cs : List Char) : Except BrokenNumeral (Numeral × List Char) := do
  let (negative, rest) := match cs with
    | '-' :: rest => (true, rest)
    | _ => (false, cs)
  let (whole, rest) ← readWhole rest
  let (fraction, rest) ← readFraction rest
  let (exponent, rest) ← readExponent rest
  return (⟨negative, whole, fraction, exponent⟩, rest)

end Numeral

end WikibaseQuery

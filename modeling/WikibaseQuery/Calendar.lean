import WikibaseQuery.Compile.Error
import WikibaseQuery.Text.DecimalDigit

/-!
# The following year and the following month

A point in time is written as a sign, a year of any number of digits, a month of two digits, and
more that does not matter here.  `followingYear` and `followingMonth` give the first instant after
the year or the month.  The year keeps its width, and years of more than 64 bits are refused; so are
digits of other scripts where a digit has to be counted up.
-/

namespace WikibaseQuery

/-! ## Parts of a point in time -/

/-- The sign and the year, with what follows them. -/
def splitYear : List Char → Option (Char × List Char × List Char)
  | [] => none
  | sign :: rest =>
    let year := rest.takeWhile isDecimalDigit
    if (sign = '+' ∨ sign = '-') ∧ year ≠ [] then
      some (sign, year, rest.dropWhile isDecimalDigit)
    else none

/-- The sign, the year and the two digits of the month. -/
def splitMonth (cs : List Char) : Option (Char × List Char × Char × Char) :=
  match splitYear cs with
  | some (sign, year, '-' :: tens :: ones :: _) =>
    if isDecimalDigit tens ∧ isDecimalDigit ones then some (sign, year, tens, ones) else none
  | _ => none

/-- The value of ASCII digits. -/
def asciiValue? (digits : List Char) : Option Nat :=
  if digits.all Char.isDigit then some (Nat.ofDigitChars 10 digits 0) else none

/-- The digits of a number, with zeros before them up to the width. -/
def padded (width n : Nat) : List Char :=
  let digits := Nat.toDigits 10 n
  List.replicate (width - digits.length) '0' ++ digits

/-! ## Counting up -/

/-- The year after the given one: further from zero after `+`, nearer to it after `-`. -/
def shiftYear? (sign : Char) (year : List Char) : Option (List Char) :=
  match asciiValue? year with
  | none => none
  | some n =>
    if sign = '+' then
      if n + 1 < UInt64.size then some (padded year.length (n + 1)) else none
    else if 0 < n ∧ n < UInt64.size then some (padded year.length (n - 1))
    else none

/-- The year and the month after the given ones; January follows December. -/
def shiftMonth? (sign : Char) (year : List Char) (tens ones : Char) :
    Option (List Char × List Char) :=
  if tens = '1' ∧ ones = '2' then (shiftYear? sign year).map (·, ['0', '1'])
  else (asciiValue? [tens, ones]).map fun month => (year, padded 2 (month + 1))

/-- The start of the day that stands in a point in time given to the year or the month. -/
def startOfDay : List Char := "-00T00:00:00Z".toList

/-- The first instant of the year after the one of `instant`. -/
def followingYear? (instant : List Char) : Option (List Char) :=
  match splitYear instant with
  | none => none
  | some (sign, year, _) =>
    (shiftYear? sign year).map fun year => sign :: (year ++ "-00".toList ++ startOfDay)

/-- The first instant of the month after the one of `instant`. -/
def followingMonth? (instant : List Char) : Option (List Char) :=
  match splitMonth instant with
  | none => none
  | some (sign, year, tens, ones) =>
    (shiftMonth? sign year tens ones).map fun (year, month) =>
      sign :: (year ++ '-' :: month ++ startOfDay)

/-- A computed instant, or the error that carries the given one. -/
def instantOr (instant : String) : Option (List Char) → Except CompileError String
  | some following => .ok (String.ofList following)
  | none => .error (.malformedDate instant)

/-- The first instant of the following year. -/
def followingYear (instant : String) : Except CompileError String :=
  instantOr instant (followingYear? instant.toList)

/-- The first instant of the following month. -/
def followingMonth (instant : String) : Except CompileError String :=
  instantOr instant (followingMonth? instant.toList)

end WikibaseQuery

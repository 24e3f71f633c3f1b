import WikibaseQuery.Decimal.Binary64

/-!
# JSON values

A JSON value as it is held once its text has been read.  A numeral without fraction and exponent
that fits 64 bits is an integer, any other is a finite binary64 number.  The members of an object
keep their order and may repeat a name.
-/

namespace WikibaseQuery

/-- A JSON number. -/
inductive Number where
  /-- A numeral without fraction and exponent, between `-2 ^ 63` and `2 ^ 64 - 1`. -/
  | integer (value : Int)
  /-- Any other numeral. -/
  | float (value : Binary64)
  deriving DecidableEq

/-- The nearest binary64 number. -/
def Number.toFloat : Number → Binary64
  | .integer n => (Binary64.ofDecimal? (n < 0) ⟨n.natAbs, 0⟩).getD (.zero (n < 0))
  | .float x => x

/-- A JSON value. -/
inductive Json where
  | null
  | bool (value : Bool)
  | number (value : Number)
  | text (value : String)
  | array (items : List Json)
  | object (members : List (String × Json))

namespace Json

/-- A whole number. -/
def ofNat (n : Nat) : Json := .number (.integer n)

/-- The value, or `null` where there is none. -/
def ofOption (toJson : α → Json) : Option α → Json
  | none => .null
  | some a => toJson a

end Json

end WikibaseQuery

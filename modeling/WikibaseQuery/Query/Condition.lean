import WikibaseQuery.Decimal.Binary64
import WikibaseQuery.Query.Datatype

/-!
# Queries and their conditions

A query asks for the items that meet a list of conditions.  A condition is about the statements of
one property: what their values should be, whether they should have references, and whether the
items that meet it are asked for or ruled out.
-/

namespace WikibaseQuery

/-! ## Values -/

/-- The value that a condition compares with. -/
inductive Value where
  | text (text : String)
  /-- An entity by its id. -/
  | entity (id : String)
  /-- A point in time, and how exactly it is known: 11 to the day, 10 to the month, 9 to the year. -/
  | time (instant : String) (precision : UInt8)
  /-- An amount, with the id of its unit if it has one. -/
  | quantity (amount : Binary64) (unit : Option String)
  deriving DecidableEq

/-- The kind of a value, in words. -/
def Value.kind : Value → String
  | .text _ => "string"
  | .entity _ => "entity reference"
  | .time _ _ => "time value"
  | .quantity _ _ => "quantity value"

/-! ## Relations -/

/-- How the values of the statements relate to the value of the condition. -/
inductive Relation where
  | matching
  | notMatching
  /-- Any value will do. -/
  | regardless
  | lessThan
  | moreThan
  deriving DecidableEq, Repr

/-- Whether the statements have references. -/
inductive References where
  | present
  | absent
  | regardless
  deriving DecidableEq, Repr

/-- How a condition is joined with the one before it. -/
inductive Connective where
  | and
  | or
  deriving DecidableEq, Repr

namespace Relation

def names : List (String × Relation) :=
  [ ("matching", .matching), ("without", .notMatching), ("regardless-of-value", .regardless),
    ("less-than", .lessThan), ("more-than", .moreThan) ]

def name : Relation → String
  | matching => "matching"
  | notMatching => "without"
  | regardless => "regardless-of-value"
  | lessThan => "less-than"
  | moreThan => "more-than"

/-- A relation is found by its name. -/
@[simp] theorem lookup_name (r : Relation) : names.lookup r.name = some r := by
  cases r <;> decide

end Relation

namespace References

def names : List (String × References) :=
  [ ("with", .present), ("without", .absent), ("regardless", .regardless) ]

def name : References → String
  | present => "with"
  | absent => "without"
  | regardless => "regardless"

/-- A constraint on references is found by its name. -/
@[simp] theorem lookup_name (r : References) : names.lookup r.name = some r := by
  cases r <;> decide

end References

namespace Connective

def names : List (String × Connective) := [("and", .and), ("or", .or)]

def name : Connective → String
  | and => "and"
  | or => "or"

/-- A connective is found by its name. -/
@[simp] theorem lookup_name (c : Connective) : names.lookup c.name = some c := by
  cases c <;> decide

end Connective

/-! ## Conditions and queries -/

/-- A condition on the statements of one property. -/
structure Condition where
  property : String
  datatype : Datatype
  value : Value
  relation : Relation
  references : References
  /-- Whether instances of subclasses of the value count too. -/
  subclasses : Bool
  /-- Whether the items that meet the condition are ruled out. -/
  negate : Bool
  /-- How the condition is joined with the one before it. -/
  connective : Option Connective
  deriving DecidableEq

/-- A query: conditions in order, and what to return. -/
structure Query where
  conditions : List Condition
  limit : Option UInt64
  /-- Whether the labels of the items are left out. -/
  omitLabels : Bool
  deriving DecidableEq

end WikibaseQuery

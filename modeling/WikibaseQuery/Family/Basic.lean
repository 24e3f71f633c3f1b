import WikibaseQuery.Family.Entity
import WikibaseQuery.Family.Existence
import WikibaseQuery.Family.Quantity
import WikibaseQuery.Family.Text
import WikibaseQuery.Family.Time

/-!
# Families of datatypes

The datatypes fall into families, and the conditions of a family have patterns of one kind.  A
condition that is given to another family than its own is refused, except that any condition can ask
for the mere existence of a value.
-/

namespace WikibaseQuery

/-- A family of datatypes. -/
inductive Family where
  | text
  | entity
  | quantity
  | time
  /-- The datatypes without patterns of their own. -/
  | existence
  deriving DecidableEq, Repr

namespace Family

/-- The family in messages. -/
def name : Family → String
  | text => "string"
  | entity => "entity"
  | quantity => "quantity"
  | time => "date"
  | existence => "limited"

/-- The family of a datatype. -/
def ofDatatype : Datatype → Family
  | .string | .externalId | .url => text
  | .item | .lexeme | .sense | .form | .property => entity
  | .quantity => quantity
  | .time => time
  | .unsupported _ => existence

/-- Whether the family takes conditions of the datatype. -/
def accepts (f : Family) (d : Datatype) : Bool := f = existence || f = ofDatatype d

/-- The patterns that the family has for a condition. -/
def patterns (f : Family) (s : Settings) (c : Condition) (scope : Scope) :
    Except CompileError (List Pattern) :=
  if f.accepts c.datatype then
    match f with
    | text => textPatterns s c scope
    | entity => entityPatterns s c scope
    | quantity => quantityPatterns s c scope
    | time => timePatterns s c scope
    | existence => existencePatterns s c scope
  else .error (.unexpectedDatatype f.name c.datatype)

end Family

/-- The patterns of a condition, by the family of its datatype. -/
def Condition.patterns (s : Settings) (c : Condition) (scope : Scope) :
    Except CompileError (List Pattern) :=
  (Family.ofDatatype c.datatype).patterns s c scope

end WikibaseQuery

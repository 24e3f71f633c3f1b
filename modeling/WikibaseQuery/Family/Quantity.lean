import WikibaseQuery.Compile.Fragments

/-!
# Conditions on quantities

Without a unit the amounts are compared as they stand.  With a unit the amount of the condition is
converted to the coherent unit and compared with the normalized amounts of the statements.
-/

namespace WikibaseQuery

/-- The operator that compares an amount with the one of the condition. -/
def Relation.comparison : Relation → Option Operator
  | .matching => some .equal
  | .notMatching => some .notEqual
  | .lessThan => some .less
  | .moreThan => some .greater
  | .regardless => none

/-- The filter that an amount stands in the relation to another expression. -/
def amountFilter (relation : Relation) (amount : Variable) (other : Expression) : List Pattern :=
  match relation.comparison with
  | some operator => [.comparison amount operator other]
  | none => []

/-- The patterns for amounts as they stand, with the filter against `amount` if there is one. -/
def plainAmountPatterns (n : Namespaces) (c : Condition) (amount : Option Binary64) (i : Nat) :
    List Pattern :=
  let statement := Variable.numbered "statement" i
  let quantity := Variable.numbered "numericQuantity" i
  let path := Path.sequence [n.statementValue c.property, n.ontology "quantityAmount"]
  .triples [claimTriple n c.property statement, ⟨statement, path, quantity⟩] ::
    ((match amount with
      | some amount => amountFilter c.relation quantity (Literal.ofAmount amount)
      | none => []) ++
      referenceFilter n c.references statement)

/-- The patterns that convert the amount of the condition and compare normalized amounts. -/
def convertedAmountPatterns (n : Namespaces) (conversion : String) (c : Condition)
    (amount : Binary64) (unit : String) (i : Nat) : List Pattern :=
  let userQuantity := Variable.numbered "userQuantity" i
  let userUnit := Variable.numbered "userUnit" i
  let factor := Variable.numbered "conversionFactor" i
  let coherentUnit := Variable.numbered "coherentUnit" i
  let coherentQuantity := Variable.numbered "coherentUserQuantity" i
  let statement := Variable.numbered "statement" i
  let statementQuantity := Variable.numbered "statementQuantity" i
  let converted := fun name : String => Path.sequence
    [n.claim conversion, n.statementValue conversion, n.ontology name]
  let normalized := fun name : String => Path.sequence
    [n.normalizedValue c.property, n.ontology name]
  [ .bind userQuantity (Literal.ofAmount amount),
    .bind userUnit (n.entity unit),
    .triples
      [ ⟨userUnit, converted "quantityAmount", factor⟩,
        ⟨userUnit, converted "quantityUnit", coherentUnit⟩ ],
    .bind coherentQuantity (.binary .times userQuantity factor),
    .triples
      [ claimTriple n c.property statement,
        ⟨statement, normalized "quantityAmount", statementQuantity⟩,
        ⟨statement, normalized "quantityUnit", coherentUnit⟩ ] ] ++
    (amountFilter c.relation statementQuantity coherentQuantity ++
      referenceFilter n c.references statement)

/-- The patterns of a condition on a quantity, before negation. -/
def positiveQuantityPatterns (s : Settings) (c : Condition) (scope : Scope) :
    Except CompileError (List Pattern) :=
  match c.relation, c.value with
  | .regardless, _ => do return plainAmountPatterns s.namespaces c none (← scope.index)
  | _, .quantity amount none => do
    return plainAmountPatterns s.namespaces c (some amount) (← scope.index)
  | _, .quantity amount (some unit) =>
    match s.unitConversion with
    | .error setting => .error (.missingSetting setting)
    | .ok conversion => do
      return convertedAmountPatterns s.namespaces conversion c amount unit (← scope.index)
  | _, value => .error (.unexpectedValue c.datatype "quantity value" value.kind)

/-- The patterns of a condition on a quantity. -/
def quantityPatterns (s : Settings) (c : Condition) (scope : Scope) :
    Except CompileError (List Pattern) := do
  return negateIf c.negate (← positiveQuantityPatterns s c scope)

end WikibaseQuery

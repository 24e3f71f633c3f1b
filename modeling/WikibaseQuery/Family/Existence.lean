import WikibaseQuery.Family.Statement

/-!
# Conditions on the existence of a value

For datatypes without patterns of their own a condition says no more than that the property has a
value, whatever value it names.
-/

namespace WikibaseQuery

/-- The patterns of a condition that the property has some value. -/
def existencePatterns (s : Settings) (c : Condition) (scope : Scope) :
    Except CompileError (List Pattern) :=
  match c.relation with
  | .lessThan | .moreThan => .error (.unsupportedRelation c.datatype c.relation)
  | .matching | .notMatching | .regardless =>
    statementPatterns s.namespaces { c with relation := .regardless } scope
      (anyValueNode c.property scope.suffix) []

end WikibaseQuery

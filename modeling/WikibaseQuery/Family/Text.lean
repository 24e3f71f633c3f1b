import WikibaseQuery.Family.Statement

/-!
# Conditions on texts

Plain texts and external ids are compared as literals, URLs as IRIs.
-/

namespace WikibaseQuery

/-- The patterns of a condition on a text. -/
def textPatterns (s : Settings) (c : Condition) (scope : Scope) :
    Except CompileError (List Pattern) :=
  match c.value with
  | .text text =>
    let value : Term := if c.datatype = .url then .iri ⟨text⟩ else .literal (.plain text)
    statementPatterns s.namespaces c scope value []
  | value => .error (.unexpectedValue c.datatype "string" value.kind)

end WikibaseQuery

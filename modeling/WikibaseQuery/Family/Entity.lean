import WikibaseQuery.Family.Statement

/-!
# Conditions on entities

The value is the IRI of an entity.  For an item the path may go on along any number of subclass
links, so that instances of subclasses count too.
-/

namespace WikibaseQuery

/-- The subclass links after the value, for items whose subclasses count too. -/
def subclassTail (s : Settings) (c : Condition) : Except CompileError (List Path) :=
  if c.datatype = .item ∧ c.subclasses ∧ (c.relation = .matching ∨ c.relation = .notMatching) then
    match s.subclassProperty c.property with
    | .ok subclass => .ok [.zeroOrMore (s.namespaces.direct subclass)]
    | .error setting => .error (.missingSetting setting)
  else .ok []

/-- The patterns of a condition on an entity.  No entity is needed where any value will do. -/
def entityPatterns (s : Settings) (c : Condition) (scope : Scope) :
    Except CompileError (List Pattern) :=
  match c.value, c.relation with
  | .entity id, _ => do
    let tail ← subclassTail s c
    statementPatterns s.namespaces c scope (s.namespaces.entity id) tail
  | _, .regardless => statementPatterns s.namespaces c scope (s.namespaces.entity "") []
  | value, _ => .error (.unexpectedValue c.datatype "entity reference" value.kind)

end WikibaseQuery

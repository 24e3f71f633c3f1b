import WikibaseQuery.Compile.Fragments

/-!
# Statements by their value

The patterns of a condition whose value is a term: a text, an IRI or an entity.

    ?item p:P ?statementN. ?statementN (ps:P/tail) value.
    FILTER(EXISTS of references)
    MINUS of ?item (p:P/ps:P/tail) value.    where the value should not match

The `tail` prolongs the path wherever the value itself is matched.
-/

namespace WikibaseQuery

/-- The object of the statement's value triple, and the path that leads to it. -/
def statementObject (n : Namespaces) (c : Condition) (suffix : String) (i : Nat) (value : Term)
    (tail : List Path) : Except CompileError (Term × Path) :=
  let link : Path := n.statement c.property
  match c.relation with
  | .matching => .ok (value, .sequence (link :: tail))
  | .notMatching => .ok (Variable.numbered "instance" i, .sequence [link])
  | .regardless => .ok (anyValueNode c.property suffix, .sequence [link])
  | .lessThan | .moreThan => .error (.unsupportedRelation c.datatype c.relation)

/-- The patterns that take away the items which have the value. -/
def excludeValue (n : Namespaces) (c : Condition) (value : Term) (tail : List Path) :
    List Pattern :=
  match c.relation with
  | .notMatching =>
    let path := Path.sequence (.iri (n.claim c.property) :: .iri (n.statement c.property) :: tail)
    [.minus [.triple Variable.item path value]]
  | _ => []

/-- The patterns of a condition whose value is a term. -/
def statementPatterns (n : Namespaces) (c : Condition) (scope : Scope) (value : Term)
    (tail : List Path) : Except CompileError (List Pattern) := do
  let i ← scope.index
  let statement := Variable.numbered "statement" i
  let (object, path) ← statementObject n c scope.suffix i value tail
  let link : Pattern := .triples [claimTriple n c.property statement, ⟨statement, path, object⟩]
  return negateIf c.negate (withReferences n c.references statement [link]) ++
    excludeValue n c value tail

end WikibaseQuery

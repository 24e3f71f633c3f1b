import WikibaseQuery.Sparql.Term

/-!
# Property paths and triples
-/

namespace WikibaseQuery

/-- An operator of property paths. -/
inductive PathOperator where
  | sequence
  | alternative
  | inverse
  | zeroOrMore
  | oneOrMore
  | zeroOrOne
  deriving DecidableEq, Repr

namespace PathOperator

/-- The operator in SPARQL. -/
def symbol : PathOperator → Char
  | sequence => '/'
  | alternative => '|'
  | inverse => '^'
  | zeroOrMore => '*'
  | oneOrMore => '+'
  | zeroOrOne => '?'

/-- Whether the operator stands between its operands. -/
def isBinary : PathOperator → Bool
  | sequence | alternative => true
  | inverse | zeroOrMore | oneOrMore | zeroOrOne => false

end PathOperator

/-- A predicate: an IRI, or an operator applied to paths. -/
inductive Path where
  | iri (i : Iri)
  | compound (operator : PathOperator) (items : List Path)

namespace Path

/-- The steps one after another.  A single step is still a path of its own. -/
def sequence (steps : List Path) : Path := .compound .sequence steps

/-- Any number of steps along the IRI. -/
def zeroOrMore (i : Iri) : Path := .compound .zeroOrMore [.iri i]

end Path

instance : Coe Iri Path := ⟨.iri⟩

/-- A triple pattern. -/
structure Triple where
  subject : Term
  predicate : Path
  object : Term

end WikibaseQuery

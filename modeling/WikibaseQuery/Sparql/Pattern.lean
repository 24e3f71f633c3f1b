import WikibaseQuery.Sparql.Triple

/-!
# Patterns, expressions and queries

The graph patterns of SPARQL 1.1 that queries on conditions are made of, with the expressions in
their filters and bindings.
-/

namespace WikibaseQuery

/-- An operator between two expressions. -/
inductive Operator where
  | equal
  | notEqual
  | less
  | greater
  | lessOrEqual
  | greaterOrEqual
  | and
  | or
  | times
  deriving DecidableEq, Repr

/-- The operator in SPARQL. -/
def Operator.symbol : Operator → String
  | equal => "="
  | notEqual => "!="
  | less => "<"
  | greater => ">"
  | lessOrEqual => "<="
  | greaterOrEqual => ">="
  | and => "&&"
  | or => "||"
  | times => "*"

mutual

/-- An expression. -/
inductive Expression where
  | term (t : Term)
  | binary (operator : Operator) (left right : Expression)
  /-- Whether the patterns have a solution, or (`negated`) have none. -/
  | existence (negated : Bool) (patterns : List Pattern)

/-- A graph pattern. -/
inductive Pattern where
  /-- A basic graph pattern. -/
  | triples (triples : List Triple)
  /-- `BIND(value AS ?target)` -/
  | bind (target : Variable) (value : Expression)
  /-- `FILTER(condition)` -/
  | filter (condition : Expression)
  /-- The arms joined by `UNION`. -/
  | union (arms : List Pattern)
  | minus (patterns : List Pattern)
  | group (patterns : List Pattern)
  /-- `SERVICE endpoint` with its patterns. -/
  | service (endpoint : Iri) (silent : Bool) (patterns : List Pattern)
  /-- A query inside a query. -/
  | subquery (distinct : Bool) (projection : List Variable) (patterns : List Pattern)
      (limit : Option UInt64)

end

/-- A `SELECT` query. -/
structure SelectQuery where
  distinct : Bool
  /-- The variables that a solution shows, in order. -/
  projection : List Variable
  patterns : List Pattern
  limit : Option UInt64

/-- The query as a pattern of another one. -/
def SelectQuery.toPattern (q : SelectQuery) : Pattern :=
  .subquery q.distinct q.projection q.patterns q.limit

instance : Coe Term Expression := ⟨.term⟩
instance : Coe Variable Expression := ⟨fun v => .term v⟩
instance : Coe Iri Expression := ⟨fun i => .term i⟩
instance : Coe Literal Expression := ⟨fun l => .term l⟩

namespace Pattern

/-- A basic graph pattern of one triple. -/
def triple (subject : Term) (predicate : Path) (object : Term) : Pattern :=
  .triples [⟨subject, predicate, object⟩]

/-- A filter by one comparison. -/
def comparison (left : Expression) (operator : Operator) (right : Expression) : Pattern :=
  .filter (.binary operator left right)

/-- Whether the pattern takes solutions away. -/
def isMinus : Pattern → Bool
  | .minus _ => true
  | _ => false

end Pattern

end WikibaseQuery

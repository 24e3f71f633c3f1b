import WikibaseQuery.Calendar
import WikibaseQuery.Compile.Fragments

/-!
# Conditions on points in time

To the day, instants are compared as they stand.  To the month or the year, the value stands for the
half-open interval from its instant to the start of the following month or year, and only
statements of at least that precision count.
-/

namespace WikibaseQuery

/-- How exactly a point in time is given. -/
inductive Precision where
  | day
  | month
  | year
  deriving DecidableEq, Repr

/-- The precision of a number. -/
def Precision.ofNumber (n : UInt8) : Except CompileError Precision :=
  if n = 11 then .ok .day
  else if n = 10 then .ok .month
  else if n = 9 then .ok .year
  else .error (.unexpectedPrecision n)

/-! ## Filters on the instant -/

/-- The pattern that an instant stands in the relation to one given to the day. -/
def dayPattern (c : Condition) (instant : Variable) (value : Literal) :
    Except CompileError Pattern :=
  match c.relation with
  | .matching => .ok (.bind instant value)
  | .notMatching => .ok (.comparison instant .notEqual value)
  | .lessThan => .ok (.comparison instant .less value)
  | .moreThan => .ok (.comparison instant .greater value)
  | .regardless => .error (.unsupportedRelation c.datatype c.relation)

/-- The filter that an instant stands in the relation to the interval from `value` to
`following`. -/
def intervalPattern (c : Condition) (instant : Variable) (value following : Literal) :
    Except CompileError Pattern :=
  match c.relation with
  | .matching =>
    .ok (.comparison (.binary .lessOrEqual value instant) .and (.binary .less instant following))
  | .notMatching =>
    .ok (.comparison (.binary .less value instant) .or (.binary .greaterOrEqual instant following))
  | .lessThan => .ok (.comparison value .less instant)
  | .moreThan => .ok (.comparison instant .greaterOrEqual following)
  | .regardless => .error (.unsupportedRelation c.datatype c.relation)

/-! ## Patterns -/

/-- The hint that lets the query service use the range of the triple before it. -/
def rangeHint (n : Namespaces) : Pattern :=
  .triple (n.queryHint "Prior") (n.queryHint "rangeSafe") (Literal.boolean true)

/-- The statement and its value with all details. -/
def statementValuePatterns (n : Namespaces) (property : String) (i : Nat) : List Pattern :=
  let statement := Variable.underscored "statement" i
  [ .triples [claimTriple n property statement],
    .triple statement (n.statementValue property) (Variable.underscored "statementValue" i) ]

/-- The instant of the value. -/
def instantPattern (n : Namespaces) (property : String) (i : Nat) : Pattern :=
  .triple (Variable.underscored "statementValue" i) (n.ontology "timeValue")
    (Variable.underscored property i)

/-- The filter that the value is at least as precise as `precision` says. -/
def precisionPatterns (n : Namespaces) (precision : UInt8) (i : Nat) : List Pattern :=
  let stored := Variable.underscored "precision" i
  [ .triple (Variable.underscored "statementValue" i) (n.ontology "timePrecision") stored,
    rangeHint n,
    .comparison stored .greaterOrEqual (Literal.decimal (toString precision.toNat)) ]

/-- The patterns for an instant given to the day. -/
def dayPatterns (n : Namespaces) (c : Condition) (value : String) (i : Nat) :
    Except CompileError (List Pattern) := do
  let pattern ← dayPattern c (.underscored c.property i) (.dateTime value)
  return statementValuePatterns n c.property i ++ [instantPattern n c.property i, pattern]

/-- The patterns for an instant given to the month or the year. -/
def intervalPatterns (n : Namespaces) (c : Condition) (value following : String)
    (precision : UInt8) (i : Nat) : Except CompileError (List Pattern) := do
  let pattern ← intervalPattern c (.underscored c.property i) (.dateTime value)
    (.dateTime following)
  return statementValuePatterns n c.property i ++ precisionPatterns n precision i ++
    [instantPattern n c.property i, rangeHint n, pattern]

/-- The patterns of a condition on a point in time, before references and negation, with the
position of the condition. -/
def positiveTimePatterns (n : Namespaces) (c : Condition) (scope : Scope) :
    Except CompileError (Nat × List Pattern) :=
  match c.relation, c.value with
  | .regardless, _ => do
    let i ← scope.index
    return (i, statementValuePatterns n c.property i ++ [instantPattern n c.property i])
  | _, .time value number => do
    match ← Precision.ofNumber number with
    | .day =>
      let i ← scope.index
      return (i, ← dayPatterns n c value i)
    | .month =>
      let following ← followingMonth value
      let i ← scope.index
      return (i, ← intervalPatterns n c value following number i)
    | .year =>
      let following ← followingYear value
      let i ← scope.index
      return (i, ← intervalPatterns n c value following number i)
  | _, value => .error (.unexpectedValue c.datatype "time value" value.kind)

/-- The patterns of a condition on a point in time. -/
def timePatterns (s : Settings) (c : Condition) (scope : Scope) :
    Except CompileError (List Pattern) := do
  let (i, patterns) ← positiveTimePatterns s.namespaces c scope
  let statement := Variable.underscored "statement" i
  return negateIf c.negate (withReferences s.namespaces c.references statement patterns)

end WikibaseQuery

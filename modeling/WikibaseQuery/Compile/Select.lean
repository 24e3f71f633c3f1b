import WikibaseQuery.Family.Basic
import WikibaseQuery.Query.Grouping

/-!
# Compiling queries

A query becomes a `SELECT` of the items that meet its conditions.  The conditions are numbered from
the front, single ones stand beside each other, and alternatives form a union.  Where all patterns
take items away, a pattern for any item comes first.  Unless labels are left out, the query becomes
a part of one that adds them.
-/

namespace WikibaseQuery

/-! ## Repeated properties -/

/-- Whether the condition has a blank node for any value. -/
def Condition.usesAnyValue (c : Condition) : Bool :=
  c.relation = .regardless || !c.datatype.isSupported

/-- Whether the condition counts when repeated blank nodes of a property are told apart. -/
def Condition.countsAsRepeat (property : String) (c : Condition) : Bool :=
  c.property = property && c.usesAnyValue && c.references = .regardless

/-- Whether two conditions at least have a blank node for any value of the property, and no
constraint on references. -/
def isRepeated (conditions : List Condition) (property : String) : Bool :=
  1 < conditions.countP (Condition.countsAsRepeat property)

/-- The scope of a condition at its position. -/
def Condition.scope (conditions : List Condition) (i : Nat) (c : Condition) : Scope :=
  ⟨some i, if isRepeated conditions c.property then toString i else ""⟩

/-! ## Elements -/

/-- A pattern list for each condition, numbered from `i` on. -/
def buildEach (build : Nat → Condition → Except CompileError (List Pattern)) :
    Nat → List Condition → Except CompileError (List (List Pattern))
  | _, [] => .ok []
  | i, c :: cs => do
    let first ← build i c
    let others ← buildEach build (i + 1) cs
    return first :: others

/-- The patterns of the elements, whose conditions are numbered from `i` on. -/
def buildElements (build : Nat → Condition → Except CompileError (List Pattern)) :
    Nat → List (Element Condition) → Except CompileError (List Pattern)
  | _, [] => .ok []
  | i, .single c :: elements => do
    let patterns ← build i c
    let others ← buildElements build (i + 1) elements
    return patterns ++ others
  | i, .group cs :: elements => do
    let arms ← buildEach build i cs
    let others ← buildElements build (i + cs.length) elements
    return .union (arms.map Pattern.group) :: others

/-! ## Queries -/

/-- The patterns, with one for any item before them where all of them take items away. -/
def withAnyItem (n : Namespaces) (patterns : List Pattern) : List Pattern :=
  if patterns.all Pattern.isMinus then anyItem n :: patterns else patterns

/-- The query that adds labels to the items of another one. -/
def withLabels (s : Settings) (inner : SelectQuery) : SelectQuery where
  distinct := true
  projection := [Variable.item, ⟨"itemLabel"⟩]
  patterns :=
    [ .service (s.namespaces.ontology "label") false [labelLanguagePattern s],
      .group [inner.toPattern] ]
  limit := none

/-- The query for the items alone. -/
def Query.compileItems (s : Settings) (q : Query) : Except CompileError SelectQuery := do
  let build := fun i c => Condition.patterns s c (Condition.scope q.conditions i c)
  let patterns ← buildElements build 0 (grouping Condition.isOr q.conditions)
  return ⟨true, [Variable.item], withAnyItem s.namespaces patterns, q.limit⟩

/-- The query for the items, with their labels unless these are left out. -/
def Query.compile (s : Settings) (q : Query) : Except CompileError SelectQuery := do
  let items ← q.compileItems s
  return if q.omitLabels then items else withLabels s items

end WikibaseQuery

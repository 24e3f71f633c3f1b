import WikibaseQuery.Query.Condition

/-!
# Grouping conditions by their connectives

Conditions are joined by "and" unless one says "or".  A condition that says "or" draws the element
before it into a group; if there is none, it starts a group of its own.
-/

namespace WikibaseQuery

/-- An element of a conjunction: a single condition, or alternatives. -/
inductive Element (α : Type) where
  | single (a : α)
  | group (members : List α)
  deriving DecidableEq, Repr

namespace Element

/-- The conditions of an element. -/
def members : Element α → List α
  | single a => [a]
  | group as => as

/-- The element with one more alternative. -/
def join (e : Element α) (a : α) : Element α := group (e.members ++ [a])

@[simp] theorem members_join (e : Element α) (a : α) : (e.join a).members = e.members ++ [a] := rfl

end Element

/-- One more condition, where `done` are the elements so far, the last one first. -/
def addElement (isOr : α → Bool) (done : List (Element α)) (a : α) : List (Element α) :=
  if isOr a then
    match done with
    | [] => [.group [a]]
    | last :: others => last.join a :: others
  else .single a :: done

/-- The elements of a list in which some say "or". -/
def grouping (isOr : α → Bool) (as : List α) : List (Element α) :=
  (as.foldl (addElement isOr) []).reverse

/-- Whether the condition says "or". -/
def Condition.isOr (c : Condition) : Bool := c.connective = some .or

end WikibaseQuery

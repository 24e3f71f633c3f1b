import WikibaseQuery.Compile.Error
import WikibaseQuery.Sparql.Pattern

/-!
# Names for one condition

The variables of a condition are named by its position in the query, so that two conditions share
none but `item` and `reference`.  The blank node of a condition is named by its property and, where
the property repeats, by a suffix.
-/

namespace WikibaseQuery

/-- What the names of a condition are made from. -/
structure Scope where
  /-- The position of the condition, if it has one yet. -/
  position : Option Nat
  /-- The suffix of its blank node, empty unless the property repeats. -/
  suffix : String
  deriving DecidableEq, Repr

namespace Scope

/-- The scope of a condition that has no position yet. -/
def unset : Scope := ⟨none, ""⟩

/-- The position, which a condition needs as soon as it names a variable. -/
def index (s : Scope) : Except CompileError Nat :=
  match s.position with
  | some i => .ok i
  | none => .error .noPosition

end Scope

namespace Variable

/-- A name with the position right after it, such as `statement3`. -/
def numbered (name : String) (i : Nat) : Variable := ⟨name ++ toString i⟩

/-- A name and the position with an underscore between them, such as `statement_3`. -/
def underscored (name : String) (i : Nat) : Variable := ⟨name ++ "_" ++ toString i⟩

/-- The item that is asked for. -/
def item : Variable := ⟨"item"⟩

/-- The reference of a statement. -/
def reference : Variable := ⟨"reference"⟩

end Variable

/-- The blank node for any value of a property. -/
def anyValueNode (property suffix : String) : Term :=
  .blank (if suffix = "" then "anyValue" ++ property else "anyValue" ++ property ++ "_" ++ suffix)

end WikibaseQuery

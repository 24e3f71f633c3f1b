import WikibaseQuery.Query.Condition
import WikibaseQuery.Settings.Basic

/-!
# Why a condition cannot be compiled
-/

namespace WikibaseQuery

/-- Why a condition cannot be compiled. -/
inductive CompileError where
  /-- The value is of another kind than the datatype needs. -/
  | unexpectedValue (datatype : Datatype) (expected found : String)
  /-- The datatype does not belong to the family that was asked for its patterns. -/
  | unexpectedDatatype (family : String) (datatype : Datatype)
  /-- The datatype has no order, or no order that can be asked for. -/
  | unsupportedRelation (datatype : Datatype) (relation : Relation)
  | malformedDate (instant : String)
  | unexpectedPrecision (precision : UInt8)
  /-- The settings lack something that the condition needs. -/
  | missingSetting (setting : MissingSetting)
  /-- The condition has no position to name its variables by. -/
  | noPosition
  deriving DecidableEq, Repr

namespace CompileError

/-- The reason in words. -/
def message : CompileError → String
  | unexpectedValue datatype expected found =>
    "Unexpected value for datatype '" ++ datatype.name ++ "': expected " ++ expected ++
      ", found " ++ found
  | unexpectedDatatype family datatype =>
    "Unexpected datatype '" ++ datatype.name ++ "' for the " ++ family ++ " pattern builder"
  | unsupportedRelation datatype relation =>
    "Unsupported relation '" ++ relation.name ++ "' for datatype '" ++ datatype.name ++ "'"
  | malformedDate instant => "Date string not in expected format: " ++ instant
  | unexpectedPrecision precision => "Unexpected precision value: " ++ toString precision.toNat
  | missingSetting setting => setting.message
  | noPosition =>
    "Condition index was not initialized before requesting a condition variable"

/-- Whether the settings are to blame rather than the condition. -/
def isAboutSettings : CompileError → Bool
  | missingSetting _ => true
  | _ => false

end CompileError

end WikibaseQuery

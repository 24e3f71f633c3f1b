import WikibaseQuery.Json.Printer
import WikibaseQuery.Json.Problem
import WikibaseQuery.Text.Blank
import WikibaseQuery.Text.Quoted

/-!
# Why a document is refused

A document is refused because its text is broken, or because its content is not what is asked for.
-/

namespace WikibaseQuery

/-- What stands where something else is asked for. -/
inductive Found where
  | null
  | bool (value : Bool)
  | number (value : Number)
  | text (value : String)
  | array
  | object
  deriving DecidableEq

/-- What was found, in words. -/
def Found.message : Found → String
  | .null => "null"
  | .bool b => "boolean `" ++ (if b then "true" else "false") ++ "`"
  | .number (.integer n) => "integer `" ++ String.ofList (Json.integerText n) ++ "`"
  | .number (.float x) => "floating point `" ++ String.ofList (x.text Json.floatLayout) ++ "`"
  | .text s => "string " ++ String.ofList (quoted s.toList)
  | .array => "sequence"
  | .object => "map"

/-- Why a document is refused. -/
inductive DecodeError where
  /-- The text is broken. -/
  | broken (problem : Problem)
  | missingField (name : String)
  | duplicateField (name : String)
  | wrongType (found : Found) (expected : String)
  /-- A negative integer where a natural number of 64 bits is asked for. -/
  | negative (value : Int)
  | unknownVariant (name : String) (known : List String)
  /-- A record written as an array has too few items. -/
  | tooShort (length : Nat) (record : String) (size : Nat)
  /-- The value of a condition has none of its shapes. -/
  | shapeless
  deriving DecidableEq

namespace DecodeError

/-- A name as it is quoted in a message. -/
def named (name : String) : String := "`" ++ name ++ "`"

/-- The list of the variants that are known. -/
def choices : List String → String
  | [a] => named a
  | [a, b] => named a ++ " or " ++ named b
  | known => "one of " ++ String.intercalate ", " (known.map named)

/-- The reason in words. -/
def message : DecodeError → String
  | broken problem => problem.message
  | missingField name => "missing field " ++ named name
  | duplicateField name => "duplicate field " ++ named name
  | wrongType found expected => "invalid type: " ++ found.message ++ ", expected " ++ expected
  | negative n =>
    "invalid value: integer " ++ named (String.ofList (Json.integerText n)) ++ ", expected u64"
  | unknownVariant name known => "unknown variant " ++ named name ++ ", expected " ++ choices known
  | tooShort length record size =>
    "invalid length " ++ toString length ++ ", expected struct " ++ record ++ " with " ++
      toString size ++ " elements"
  | shapeless => "data did not match any variant of untagged enum ConditionValue"

end DecodeError

end WikibaseQuery

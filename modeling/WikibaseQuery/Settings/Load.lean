import WikibaseQuery.File
import WikibaseQuery.Settings.Decode

/-!
# Loading settings

Settings come from a file or from two environment variables.  Of the environment only what it names
differs from the defaults, and an empty variable counts as unset.
-/

namespace WikibaseQuery

/-! ## Faults of settings -/

/-- Why settings cannot be loaded. -/
inductive LoadError where
  | noFile (path : String)
  | unreadable (path : String) (fault : FileFault)
  | badFile (path : String) (error : DecodeError)
  | badVariable (name : String) (error : DecodeError)
  deriving DecidableEq

namespace LoadError

/-- The reason behind the error, where there is one. -/
def cause : LoadError → Option String
  | noFile _ => none
  | unreadable _ fault => some fault.message
  | badFile _ error | badVariable _ error => some error.message

/-- The error in words. -/
def message : LoadError → String
  | noFile path => "Config file does not exist: " ++ path
  | unreadable path fault => "Cannot read config file " ++ path ++ ": " ++ fault.message
  | badFile path error => "Cannot parse config file " ++ path ++ ": " ++ error.message
  | badVariable name error =>
    "Invalid value in environment variable " ++ name ++ ": " ++ error.message

end LoadError

/-! ## Loading -/

namespace Settings

/-- The settings in the file that `path` leads to. -/
def ofFile (path : String) (content : FileContent) : Except LoadError Settings :=
  match content.text with
  | .error fault => .error (if fault.isNothing then .noFile path else .unreadable path fault)
  | .ok text => (Settings.decode text).mapError (.badFile path)

/-- The variable with the conversion property. -/
def conversionVariable : String := "QUERY_BUILDER_SI_CONVERSION_PROPERTY"

/-- The variable with the subclass table in JSON. -/
def subclassVariable : String := "QUERY_BUILDER_SUBCLASS_PROPERTY_MAP"

/-- The settings in the environment. -/
def ofEnvironment (environment : String → Option String) : Except LoadError Settings := do
  let given := fun name => (environment name).filter (· ≠ "")
  let subclassProperties ← match given subclassVariable with
    | none => pure []
    | some text => (decodeFrom SubclassTable.decode text).mapError (.badVariable subclassVariable)
  return { conversionProperty := given conversionVariable, subclassProperties }

end Settings

end WikibaseQuery

/-!
# Datatypes of properties

The datatypes that have patterns of their own, and any other one by its name.
-/

namespace WikibaseQuery

/-- The datatype of a property. -/
inductive Datatype where
  | string
  | externalId
  | url
  | item
  | lexeme
  | sense
  | form
  | property
  | quantity
  | time
  /-- A datatype of which no more is known than its name. -/
  | unsupported (name : String)
  deriving DecidableEq, Repr

namespace Datatype

/-- The datatypes that are known, by name. -/
def known : List (String × Datatype) :=
  [ ("string", .string), ("external-id", .externalId), ("url", .url), ("wikibase-item", .item),
    ("wikibase-lexeme", .lexeme), ("wikibase-sense", .sense), ("wikibase-form", .form),
    ("wikibase-property", .property), ("quantity", .quantity), ("time", .time) ]

/-- The datatype of a name; every name has one. -/
def ofName (name : String) : Datatype := (known.lookup name).getD (.unsupported name)

/-- The name of a datatype. -/
def name : Datatype → String
  | string => "string"
  | externalId => "external-id"
  | url => "url"
  | item => "wikibase-item"
  | lexeme => "wikibase-lexeme"
  | sense => "wikibase-sense"
  | form => "wikibase-form"
  | property => "wikibase-property"
  | quantity => "quantity"
  | time => "time"
  | unsupported name => name

/-- A datatype keeps the name that it was found by. -/
@[simp] theorem name_ofName (name : String) : (ofName name).name = name := by
  unfold ofName known
  simp only [List.lookup_cons, List.lookup_nil]
  repeat' split
  all_goals simp_all [Datatype.name]

/-- Whether the datatype has patterns of its own. -/
def isSupported : Datatype → Bool
  | unsupported _ => false
  | _ => true

end Datatype

end WikibaseQuery

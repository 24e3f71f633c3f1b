import WikibaseQuery.Namespaces

/-!
# Settings

What a query service has to be told: the property that links a unit to its coherent unit, the
properties that link an item to its superclasses, the namespaces, and the language of labels.
-/

namespace WikibaseQuery

/-- A table from properties to the subclass properties that go with them; names do not repeat. -/
abbrev SubclassTable := List (String × String)

namespace SubclassTable

/-- Give a property its subclass property, in place of the one it may have had. -/
def insert (table : SubclassTable) (property subclass : String) : SubclassTable :=
  table.filter (fun entry => entry.1 ≠ property) ++ [(property, subclass)]

/-- The table of these entries; of two for one property the last one counts. -/
def ofEntries (entries : List (String × String)) : SubclassTable :=
  entries.foldl (fun table entry => table.insert entry.1 entry.2) []

/-- The property has what it was given last. -/
@[simp] theorem lookup_insert_self (table : SubclassTable) (property subclass : String) :
    (table.insert property subclass).lookup property = some subclass := by
  induction table with
  | nil => simp [insert]
  | cons entry table ih =>
    obtain ⟨key, value⟩ := entry
    by_cases h : key = property
    · simpa [insert, h] using ih
    · have hne : (property == key) = false := by simpa using Ne.symm h
      simpa [insert, h, List.lookup_cons, hne] using ih

/-- The other properties keep what they had. -/
theorem lookup_insert_of_ne (table : SubclassTable) (subclass : String)
    {property other : String} (h : other ≠ property) :
    (table.insert property subclass).lookup other = table.lookup other := by
  have hp : (other == property) = false := by simpa using h
  induction table with
  | nil => simp [insert, List.lookup_cons, hp]
  | cons entry table ih =>
    obtain ⟨key, value⟩ := entry
    by_cases hk : key = property
    · simpa [insert, hk, List.lookup_cons, hp] using ih
    · by_cases ho : other = key
      · simp [insert, hk, ho]
      · have hne : (other == key) = false := by simpa using ho
        simpa [insert, hk, List.lookup_cons, hne] using ih

end SubclassTable

/-- What a query service has to be told. -/
structure Settings where
  /-- The property of the statements that convert a unit to its coherent unit. -/
  conversionProperty : Option String := none
  subclassProperties : SubclassTable := []
  namespaces : Namespaces := {}
  labelLanguage : String := "[AUTO_LANGUAGE]"
  deriving DecidableEq, Repr

/-- A setting that a condition needs is missing. -/
inductive MissingSetting where
  | conversionProperty
  | subclassProperty (property : String)
  deriving DecidableEq, Repr

/-- What is missing, in words. -/
def MissingSetting.message : MissingSetting → String
  | conversionProperty => "Property for conversion to SI units has to be defined"
  | subclassProperty property =>
    "No subclass property configured for " ++ property ++ " and no default entry"

namespace Settings

/-- The conversion property; an empty one counts as missing. -/
def unitConversion (s : Settings) : Except MissingSetting String :=
  match s.conversionProperty with
  | some property => if property = "" then .error .conversionProperty else .ok property
  | none => .error .conversionProperty

/-- The name under which the subclass table has the property for all others. -/
def defaultEntry : String := "default"

/-- The subclass property for a property, or else the default one. -/
def subclassProperty (s : Settings) (property : String) : Except MissingSetting String :=
  match s.subclassProperties.lookup property <|> s.subclassProperties.lookup defaultEntry with
  | some subclass => .ok subclass
  | none => .error (.subclassProperty property)

end Settings

end WikibaseQuery

import WikibaseQuery.Decimal.Layout

/-!
# Terms

Variables, IRIs, blank nodes and literals of a SPARQL query.  IRIs are held in full; how they are
shortened is a matter of printing.
-/

namespace WikibaseQuery

/-- A variable, named without its question mark. -/
structure Variable where
  name : String
  deriving DecidableEq, Repr

/-- An IRI in full. -/
structure Iri where
  text : String
  deriving DecidableEq, Repr

/-- A literal; one without a datatype is a plain text. -/
structure Literal where
  text : String
  datatype : Option Iri
  deriving DecidableEq, Repr

/-- A term in the place of a subject or an object. -/
inductive Term where
  | var (v : Variable)
  | iri (i : Iri)
  | blank (label : String)
  | literal (l : Literal)
  deriving DecidableEq, Repr

instance : Coe Variable Term := ⟨.var⟩
instance : Coe Iri Term := ⟨.iri⟩
instance : Coe Literal Term := ⟨.literal⟩

namespace Literal

/-! ## Literals of the XML Schema datatypes -/

/-- A plain text. -/
def plain (text : String) : Literal := ⟨text, none⟩

/-- A decimal number in the given spelling. -/
def decimal (text : String) : Literal :=
  ⟨text, some ⟨"http://www.w3.org/2001/XMLSchema#decimal"⟩⟩

/-- Amounts in queries are written in full, without an exponent, and of two equally near decimals
the larger one is taken. -/
def amountLayout : Layout := ⟨.away, false, fun _ => true⟩

/-- A decimal number by its value. -/
def ofAmount (amount : Binary64) : Literal :=
  decimal (String.ofList (amount.text amountLayout))

/-- A point in time in the given spelling. -/
def dateTime (text : String) : Literal :=
  ⟨text, some ⟨"http://www.w3.org/2001/XMLSchema#dateTime"⟩⟩

/-- A truth value. -/
def boolean (value : Bool) : Literal :=
  ⟨if value then "true" else "false", some ⟨"http://www.w3.org/2001/XMLSchema#boolean"⟩⟩

end Literal

end WikibaseQuery

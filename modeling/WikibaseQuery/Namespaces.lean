import WikibaseQuery.Sparql.Shorthand

/-!
# Namespaces of a Wikibase query service

The beginnings of the IRIs that a query service uses, and the IRIs made from them.  Every namespace
has a label by which queries shorten its IRIs.
-/

namespace WikibaseQuery

/-- The beginnings of the IRIs of a query service.  The defaults are those of Wikidata. -/
structure Namespaces where
  wd : String := "http://www.wikidata.org/entity/"
  wdt : String := "http://www.wikidata.org/prop/direct/"
  p : String := "http://www.wikidata.org/prop/"
  ps : String := "http://www.wikidata.org/prop/statement/"
  psv : String := "http://www.wikidata.org/prop/statement/value/"
  psn : String := "http://www.wikidata.org/prop/statement/value-normalized/"
  wikibase : String := "http://wikiba.se/ontology#"
  prov : String := "http://www.w3.org/ns/prov#"
  bd : String := "http://www.bigdata.com/rdf#"
  hint : String := "http://www.bigdata.com/queryHints#"
  xsd : String := "http://www.w3.org/2001/XMLSchema#"
  deriving DecidableEq, Repr

namespace Namespaces

/-- The namespaces with their labels. -/
def shorthands (n : Namespaces) : List Shorthand :=
  [ ⟨"wd", n.wd⟩, ⟨"wdt", n.wdt⟩, ⟨"p", n.p⟩, ⟨"ps", n.ps⟩, ⟨"psv", n.psv⟩, ⟨"psn", n.psn⟩,
    ⟨"wikibase", n.wikibase⟩, ⟨"prov", n.prov⟩, ⟨"bd", n.bd⟩, ⟨"hint", n.hint⟩, ⟨"xsd", n.xsd⟩ ]

/-! ## IRIs -/

/-- An entity. -/
def entity (n : Namespaces) (id : String) : Iri := ⟨n.wd ++ id⟩

/-- A property as a link from an item straight to a value. -/
def direct (n : Namespaces) (property : String) : Iri := ⟨n.wdt ++ property⟩

/-- A property as a link from an item to a statement. -/
def claim (n : Namespaces) (property : String) : Iri := ⟨n.p ++ property⟩

/-- A property as a link from a statement to its value. -/
def statement (n : Namespaces) (property : String) : Iri := ⟨n.ps ++ property⟩

/-- A property as a link from a statement to its value with all details. -/
def statementValue (n : Namespaces) (property : String) : Iri := ⟨n.psv ++ property⟩

/-- A property as a link from a statement to its value in the coherent unit. -/
def normalizedValue (n : Namespaces) (property : String) : Iri := ⟨n.psn ++ property⟩

/-- A term of the Wikibase ontology. -/
def ontology (n : Namespaces) (name : String) : Iri := ⟨n.wikibase ++ name⟩

/-- A term of the provenance ontology. -/
def provenance (n : Namespaces) (name : String) : Iri := ⟨n.prov ++ name⟩

/-- A term of the query service. -/
def service (n : Namespaces) (name : String) : Iri := ⟨n.bd ++ name⟩

/-- A hint for the query service. -/
def queryHint (n : Namespaces) (name : String) : Iri := ⟨n.hint ++ name⟩

end Namespaces

end WikibaseQuery

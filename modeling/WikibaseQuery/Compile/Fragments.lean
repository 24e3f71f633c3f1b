import WikibaseQuery.Compile.Scope

/-!
# Fragments that several conditions share

The triple from an item to a statement, the test for references, the placeholder for any item, and
the label service.
-/

namespace WikibaseQuery

/-- `?item p:P ?statement` -/
def claimTriple (n : Namespaces) (property : String) (statement : Variable) : Triple :=
  ⟨Variable.item, n.claim property, statement⟩

/-- The filter that the statement has references, or has none; nothing if that does not matter. -/
def referenceFilter (n : Namespaces) (references : References) (statement : Variable) :
    List Pattern :=
  let derived := Pattern.triple statement (n.provenance "wasDerivedFrom") Variable.reference
  match references with
  | .present => [.filter (.existence false [derived])]
  | .absent => [.filter (.existence true [derived])]
  | .regardless => []

/-- The patterns with the test for references.  With a test they form a group of their own. -/
def withReferences (n : Namespaces) (references : References) (statement : Variable)
    (patterns : List Pattern) : List Pattern :=
  match referenceFilter n references statement with
  | [] => patterns
  | filters => [.group (patterns ++ filters)]

/-- The patterns, taken away if the condition rules items out. -/
def negateIf (negate : Bool) (patterns : List Pattern) : List Pattern :=
  if negate then [.minus patterns] else patterns

/-- The pattern that any item with sitelinks meets. -/
def anyItem (n : Namespaces) : Pattern :=
  .triple Variable.item (n.ontology "sitelinks") (.blank "anyValue")

/-- The body of the label service: the language of the labels. -/
def labelLanguagePattern (s : Settings) : Pattern :=
  .triple (s.namespaces.service "serviceParam") (s.namespaces.ontology "language")
    (Literal.plain s.labelLanguage)

end WikibaseQuery

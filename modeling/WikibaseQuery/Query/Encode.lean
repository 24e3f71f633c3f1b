import WikibaseQuery.Json.Printer
import WikibaseQuery.Query.Condition

/-!
# Queries as JSON

The JSON form of values, conditions and queries.  Every field is written, only a limit that is not
set is left out.
-/

namespace WikibaseQuery

def Datatype.toJson (d : Datatype) : Json := .text d.name

def Value.toJson : Value → Json
  | .text s => .text s
  | .entity id => .object [("id", .text id)]
  | .time instant precision =>
    .object [("value", .text instant), ("precision", .ofNat precision.toNat)]
  | .quantity amount unit =>
    .object [("amount", .number (.float amount)), ("unit", .ofOption .text unit)]

def Condition.toJson (c : Condition) : Json :=
  .object
    [ ("propertyId", .text c.property),
      ("datatype", c.datatype.toJson),
      ("value", c.value.toJson),
      ("propertyValueRelation", .text c.relation.name),
      ("referenceRelation", .text c.references.name),
      ("subclasses", .bool c.subclasses),
      ("negate", .bool c.negate),
      ("conditionRelation", .ofOption (fun connective => .text connective.name) c.connective) ]

def Query.toJson (q : Query) : Json :=
  .object
    (("conditions", .array (q.conditions.map Condition.toJson)) ::
      (match q.limit with
        | none => []
        | some limit => [("limit", .ofNat limit.toNat)]) ++
      [("omitLabels", .bool q.omitLabels)])

/-- The text of a query in JSON. -/
def Query.encode (q : Query) : String := String.ofList q.toJson.print

end WikibaseQuery

import WikibaseQuery.Json.Record
import WikibaseQuery.Query.Condition

/-!
# Queries from JSON

The records of conditions and queries, and the shapes of values.  A value is first taken whole and
then matched against its shapes: a text, an entity, a time, a quantity, in this order.
-/

namespace WikibaseQuery

/-! ## The shapes of values -/

namespace Value

/-- The content of the only member that has one of the names: nothing when there are two such
members, and no content when there is none. -/
def soleMember? (names : List String) : List (String × Json) → Option (Option Json)
  | [] => some none
  | (name, content) :: rest =>
    match soleMember? names rest with
    | none => none
    | some found =>
      if name ∈ names then (if found.isSome then none else some (some content))
      else some found

/-- An entity: its id. -/
def entityOf? : Json → Option Value
  | .text id => some (.entity id)
  | _ => none

/-- A time: a text and a precision of 8 bits. -/
def timeOf? : Json → Json → Option Value
  | .text instant, .number (.integer n) =>
    if 0 ≤ n ∧ n < 256 then some (.time instant (UInt8.ofNat n.toNat)) else none
  | _, _ => none

/-- A quantity: a number and a unit, which may be `null`. -/
def quantityOf? : Json → Json → Option Value
  | .number amount, .text unit => some (.quantity amount.toFloat (some unit))
  | .number amount, .null => some (.quantity amount.toFloat none)
  | _, _ => none

/-- The shape of an object, whose other members do not matter. -/
def ofMembers? (members : List (String × Json)) : Option Value :=
  let sole := fun names => soleMember? names members
  let entity := do entityOf? (← ← sole ["id"])
  let time := do timeOf? (← ← sole ["value", "time"]) (← ← sole ["precision"])
  let quantity := do quantityOf? (← ← sole ["amount", "value"]) ((← sole ["unit"]).getD .null)
  entity <|> time <|> quantity

/-- The shape of an array, which holds the fields in order and nothing else. -/
def ofItems? : List Json → Option Value
  | [content] => entityOf? content <|> quantityOf? content .null
  | [content, detail] => timeOf? content detail <|> quantityOf? content detail
  | _ => none

/-- The value that a piece of JSON stands for. -/
def ofJson? : Json → Option Value
  | .text s => some (.text s)
  | .object members => ofMembers? members
  | .array items => ofItems? items
  | .null | .bool _ | .number _ => none

/-- Take a value whole and match it against the shapes. -/
def decode (room : Nat) : Decoder Value := fun d => do
  let json ← (d.take room).mapError .broken
  match ofJson? json with
  | some value => return value
  | none => throw .shapeless

end Value

/-! ## Conditions and queries -/

/-- How many arrays and objects may open inside one another. -/
def nestingLimit : Nat := 127

def Datatype.decode : Decoder Datatype := fun d => Datatype.ofName <$> d.decodeText

/-- How a condition is written; `room` is what is left of the nesting limit inside it. -/
def Condition.record (room : Nat) : Record Condition where
  name := "Condition"
  required := 4
  blank := ⟨"", .string, .text "", .matching, .regardless, false, false, none⟩
  fields :=
    [ .of "propertyId" Document.decodeText fun property c => { c with property },
      .of "datatype" Datatype.decode fun datatype c => { c with datatype },
      .of "value" (Value.decode room) fun value c => { c with value },
      .of "propertyValueRelation" (Document.decodeVariant Relation.names)
        fun relation c => { c with relation },
      .of "referenceRelation" (Document.decodeVariant References.names)
        fun references c => { c with references },
      .of "subclasses" Document.decodeFlag fun subclasses c => { c with subclasses },
      .of "negate" Document.decodeFlag fun negate c => { c with negate },
      .of "conditionRelation" (Document.decodeVariant? Connective.names)
        fun connective c => { c with connective } ]

/-- A condition on its own. -/
def Condition.decode : Decoder Condition := (Condition.record (nestingLimit - 1)).decode

/-- A list of conditions on its own. -/
def Condition.decodeList : Decoder (List Condition) :=
  Document.decodeList (Condition.record (nestingLimit - 2)).decode

/-- How a query is written. -/
def Query.record : Record Query where
  name := "QueryRepresentation"
  required := 1
  blank := ⟨[], none, false⟩
  fields :=
    [ .of "conditions" (Document.decodeList (Condition.record (nestingLimit - 3)).decode)
        fun conditions q => { q with conditions },
      .of "limit" Document.decodeWord? fun limit q => { q with limit },
      .of "omitLabels" Document.decodeFlag fun omitLabels q => { q with omitLabels } ]

/-- Decode the text of a query. -/
def Query.decode (text : String) : Except DecodeError Query := decodeFrom Query.record.decode text

end WikibaseQuery

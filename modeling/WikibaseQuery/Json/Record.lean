import WikibaseQuery.Json.Decode

/-!
# Records

A record is written as an object of named fields or as the array of its fields in order.  Fields
beyond the required ones may be missing.  In an object unknown fields are passed over and no known
field may stand twice; in an array nothing may follow the last field.
-/

namespace WikibaseQuery

/-- A field of a record, with what its content changes. -/
structure Field (σ : Type) where
  name : String
  read : Document → σ → Except DecodeError σ

/-- The field whose decoded content is put into the record. -/
def Field.of (name : String) (decoder : Decoder α) (put : α → σ → σ) : Field σ :=
  ⟨name, fun d s => do return put (← decoder d) s⟩

/-- How a record is written. -/
structure Record (σ : Type) where
  name : String
  fields : List (Field σ)
  /-- How many of the fields, from the first on, may not be missing. -/
  required : Nat
  /-- The record before any field is read; what it has for the required fields is never seen. -/
  blank : σ

namespace Record

/-- The fields that the members name, from the front, with the names seen before. -/
def readMembers (r : Record σ) (seen : List String) (s : σ) :
    Members → Except DecodeError (List String × σ)
  | .closed => .ok (seen, s)
  | .stopped stop => .error (.broken stop.inObject)
  | .oddKey => .error (.broken .expectedTextKey)
  | .brokenKey fault => .error (.broken fault.taken)
  | .member name value rest => do
    let name ← name.mapError .broken
    match r.fields.find? (·.name = name) with
    | none =>
      value.skip.mapError .broken
      r.readMembers seen s rest
    | some field =>
      if name ∈ seen then throw (.duplicateField name)
      let s ← field.read value s
      r.readMembers (name :: seen) s rest

/-- The fields of an array in order; the count is that of the items there were. -/
def readItems (count : Nat) (s : σ) : List (Field σ) → Items → Except DecodeError (Nat × σ)
  | _, .closed => .ok (count, s)
  | field :: fields, .item value rest => do
    let s ← field.read value s
    readItems (count + 1) s fields rest
  | _ :: _, .stopped stop => .error (.broken stop.inArray)
  | [], .stopped stop => .error (.broken stop.inFullArray)
  | [], .item _ _ => .error (.broken .trailingText)

/-- The names of the required fields. -/
def requiredNames (r : Record σ) : List String := (r.fields.take r.required).map Field.name

/-- A record in either form. -/
def decode (r : Record σ) : Decoder σ
  | .object members => do
    let (seen, s) ← r.readMembers [] r.blank members
    match r.requiredNames.find? (fun name => name ∉ seen) with
    | some name => throw (.missingField name)
    | none => return s
  | .array items => do
    let (count, s) ← readItems 0 r.blank r.fields items
    if count < r.required then throw (.tooShort count r.name r.fields.length)
    return s
  | d => .error (d.mismatch ("struct " ++ r.name))

end Record

end WikibaseQuery

import WikibaseQuery.Json.DecodeError
import WikibaseQuery.Json.Reader

/-!
# Decoding documents

The decoders of the simple kinds of content: texts, flags, limits, lists, tables and variants.
Each goes through its document from the front and reports the first thing that is wrong.
-/

namespace WikibaseQuery

/-- A decoder of documents. -/
abbrev Decoder (α : Type) := Document → Except DecodeError α

namespace Document

/-- What stands at a place, or the problem met in reading it. -/
def found : Document → Except Problem Found
  | .null => .ok .null
  | .bool b => .ok (.bool b)
  | .number n => match n.number? with
    | some value => .ok (.number value)
    | none => .error .numberOutOfRange
  | .text content => .text <$> content
  | .array _ => .ok .array
  | .object _ => .ok .object
  | .broken fault => .error fault.taken

/-- The error of a document that is not what is asked for. -/
def mismatch (d : Document) (expected : String) : DecodeError :=
  match d.found with
  | .ok found => .wrongType found expected
  | .error problem => .broken problem

/-! ## Simple content -/

/-- A text. -/
def decodeText : Decoder String
  | .text (.ok s) => .ok s
  | d => .error (d.mismatch "a string")

/-- A text or `null`. -/
def decodeText? : Decoder (Option String)
  | .null => .ok none
  | d => some <$> d.decodeText

/-- A truth value. -/
def decodeFlag : Decoder Bool
  | .bool b => .ok b
  | d => .error (d.mismatch "a boolean")

/-- A natural number of 64 bits. -/
def decodeWord : Decoder UInt64
  | .number n => match n.number? with
    | some (.integer i) => if i < 0 then .error (.negative i) else .ok (UInt64.ofNat i.toNat)
    | some (.float x) => .error (.wrongType (.number (.float x)) "u64")
    | none => .error (.broken .numberOutOfRange)
  | d => .error (d.mismatch "u64")

/-- A natural number of 64 bits or `null`. -/
def decodeWord? : Decoder (Option UInt64)
  | .null => .ok none
  | d => some <$> d.decodeWord

/-- A finite number of any spelling. -/
def decodeFloat : Decoder Binary64
  | .number n => match n.number? with
    | some value => .ok value.toFloat
    | none => .error (.broken .numberOutOfRange)
  | d => .error (d.mismatch "f64")

/-! ## Variants -/

/-- The variant of a name. -/
def variantNamed (known : List (String × α)) (name : String) : Except DecodeError α :=
  match known.lookup name with
  | some a => .ok a
  | none => .error (.unknownVariant name (known.map Prod.fst))

/-- A variant, written as its name or as the object whose only member has that name and the value
`null`. -/
def decodeVariant (known : List (String × α)) : Decoder α
  | .text (.ok name) => variantNamed known name
  | .text (.error problem) => .error (.broken problem)
  | .object (.member (.ok name) value rest) => do
    let a ← variantNamed known name
    match value, rest with
    | .null, .closed => .ok a
    | .null, .stopped stop => .error (.broken stop.inFullObject)
    | .null, _ => .error (.broken .expectedValue)
    | value, _ => .error (value.mismatch "unit")
  | .object (.member (.error problem) _ _) => .error (.broken problem)
  | .object (.brokenKey fault) => .error (.broken fault.taken)
  | .object .oddKey => .error (.broken .expectedTextKey)
  | .object (.stopped _) => .error (.broken .endInValue)
  | .object .closed => .error (.broken .expectedValue)
  | .broken fault =>
    match fault.opening with
    | .none | .text => .error (.broken fault.taken)
    | .nullWord | .flagWord | .number => .error (.broken .expectedValue)
  | .null | .bool _ | .number _ | .array _ => .error (.broken .expectedValue)

/-- A variant or `null`. -/
def decodeVariant? (known : List (String × α)) : Decoder (Option α)
  | .null => .ok none
  | .broken ⟨.nullWord, taken, _⟩ => .error (.broken taken)
  | d => some <$> d.decodeVariant known

end Document

/-! ## Lists and tables -/

/-- The items of a list. -/
def Items.decode (item : Decoder α) : Items → Except DecodeError (List α)
  | .closed => .ok []
  | .stopped stop => .error (.broken stop.inArray)
  | .item value rest => do
    let value ← item value
    let rest ← rest.decode item
    return value :: rest

/-- The members of a table, in order. -/
def Members.decode (value : Decoder α) : Members → Except DecodeError (List (String × α))
  | .closed => .ok []
  | .stopped stop => .error (.broken stop.inObject)
  | .oddKey => .error (.broken .expectedTextKey)
  | .brokenKey fault => .error (.broken fault.taken)
  | .member name content rest => do
    let name ← name.mapError .broken
    let content ← value content
    let rest ← rest.decode value
    return (name, content) :: rest

namespace Document

/-- A list. -/
def decodeList (item : Decoder α) : Decoder (List α)
  | .array items => items.decode item
  | d => .error (d.mismatch "a sequence")

/-- A table from names to values. -/
def decodeTable (value : Decoder α) : Decoder (List (String × α))
  | .object members => members.decode value
  | d => .error (d.mismatch "a map")

end Document

/-- Decode a whole text, after which only blanks may follow. -/
def decodeFrom (decoder : Decoder α) (text : String) : Except DecodeError α := do
  let (document, rest) := Document.read text.toList
  let a ← decoder document
  if dropBlanks rest = [] then return a else throw (.broken .trailingText)

end WikibaseQuery

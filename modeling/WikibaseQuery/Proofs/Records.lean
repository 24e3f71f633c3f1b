import WikibaseQuery.Json.Record
import WikibaseQuery.Proofs.Documents
import WikibaseQuery.Proofs.Families

/-!
# Records, lists and what their decoding keeps

A record is decoded field by field, in whatever order its members stand and with whatever else
stands between them.  Two things are shown of that: what the members of a printed object do to a
record, one at a time; and that a property of records holds of all that are decoded, if it holds of
the blank one and no field breaks it.

* `Record.readMembers_member` — one member that names a field puts what it holds into the record;
* `Record.decode_object_map` — an object whose reading depends on one member alone;
* `Record.decode_keeps` — what every field keeps holds of a decoded record;
* `Items.decode_map_iff`, `Items.of_decode` — the same for the items of a list.
-/

namespace WikibaseQuery

variable {α σ : Type}

/-! ## Whole texts -/

/-- The text of a value is decoded as its document is. -/
theorem decodeFrom_print (decoder : Decoder α) (j : Json) :
    decodeFrom decoder (String.ofList j.print) = decoder j.document := by
  rw [decodeFrom, String.toList_ofList, Document.read_print]
  cases h : decoder j.document with
  | error e => simp [h]; rfl
  | ok a => simp [h]; rfl

/-- What is decoded from a text is decoded from a document. -/
theorem of_decodeFrom {decoder : Decoder α} {text : String} {a : α}
    (h : decodeFrom decoder text = .ok a) : ∃ d, decoder d = .ok a := by
  obtain ⟨b, hb, hrest⟩ := (andThen_eq_ok _ _ _).mp h
  split_ifs at hrest
  cases hrest
  exact ⟨_, hb⟩

/-! ## Lists -/

/-- The items of a printed list are decoded together exactly if each is decoded. -/
theorem Items.decode_map_iff {decoder : Decoder α} {toJson : α → Json} {as : List α} :
    (Json.documentItems (as.map toJson)).decode decoder = .ok as ↔
      ∀ a ∈ as, decoder (toJson a).document = .ok a := by
  induction as with
  | nil => exact iff_of_true rfl (List.forall_mem_nil _)
  | cons a as ih =>
    rw [List.forall_mem_cons, ← ih, List.map_cons, Json.documentItems, Items.decode, andThen_eq_ok]
    simp only [andThen_eq_ok]
    constructor
    · rintro ⟨b, hb, bs, hbs, heq⟩
      obtain ⟨rfl, rfl⟩ := List.cons.inj (Except.ok.inj heq)
      exact ⟨hb, hbs⟩
    · rintro ⟨ha, has⟩
      exact ⟨a, ha, as, has, rfl⟩

/-- Every item of a decoded list was decoded. -/
theorem Items.of_decode {decoder : Decoder α} (items : Items) {as : List α}
    (h : items.decode decoder = .ok as) : ∀ a ∈ as, ∃ d, decoder d = .ok a := by
  cases items with
  | closed =>
    cases h
    exact List.forall_mem_nil _
  | stopped stop => cases h
  | item value rest =>
    rw [Items.decode] at h
    obtain ⟨b, hvalue, h⟩ := (andThen_eq_ok _ _ _).mp h
    obtain ⟨bs, hrest, h⟩ := (andThen_eq_ok _ _ _).mp h
    cases h
    intro a ha
    obtain rfl | ha := List.mem_cons.mp ha
    · exact ⟨value, hvalue⟩
    · exact Items.of_decode rest hrest a ha

theorem Document.of_decodeList {decoder : Decoder α} {d : Document} {as : List α}
    (h : d.decodeList decoder = .ok as) : ∀ a ∈ as, ∃ item, decoder item = .ok a := by
  cases d with
  | array items => exact Items.of_decode items h
  | _ => cases h

/-! ## Records -/

namespace Record

variable {r : Record σ} {name : String} {seen : List String} {s : σ}

section

variable {decoder : Decoder α} {put : α → σ → σ} {value : Document} {rest : Members}
  (hfield : r.fields.find? (·.name = name) = some (.of name decoder put)) (hseen : name ∉ seen)
include hfield hseen

/-- **One member of an object**: where it names a field that was not seen before, what it holds is
decoded and put into the record. -/
theorem readMembers_member :
    r.readMembers seen s (.member (.ok name) value rest) =
      decoder value >>= fun a => r.readMembers (name :: seen) (put a s) rest := by
  rw [readMembers]
  simp only [Except.mapError, bind, Except.bind, hfield, hseen, if_false, Field.of]
  cases decoder value <;> rfl

theorem readMembers_of {a : α} (hvalue : decoder value = .ok a) :
    r.readMembers seen s (.member (.ok name) value rest) =
      r.readMembers (name :: seen) (put a s) rest := by
  rw [readMembers_member hfield hseen, hvalue]
  rfl

/-- Where what follows is read in any case, it depends on the content of the member alone. -/
theorem readMembers_map {f : α → List String × σ}
    (hrest : ∀ a, r.readMembers (name :: seen) (put a s) rest = .ok (f a)) :
    r.readMembers seen s (.member (.ok name) value rest) = f <$> decoder value := by
  rw [readMembers_member hfield hseen]
  cases decoder value with
  | error e => rfl
  | ok a => exact hrest a

end

/-- **What one member does**: it is named after no field and passed over, or it is named after a field
that was not seen before, and read into the record. -/
theorem readMembers_member_eq_ok {name : Except Problem String} {value : Document} {rest : Members}
    {result : List String × σ} :
    r.readMembers seen s (.member name value rest) = .ok result ↔ ∃ key, name = .ok key ∧
      ((r.fields.find? (·.name = key) = none ∧ value.skip = .ok () ∧
          r.readMembers seen s rest = .ok result) ∨
        ∃ field s', r.fields.find? (·.name = key) = some field ∧ key ∉ seen ∧
          field.read value s = .ok s' ∧ r.readMembers (key :: seen) s' rest = .ok result) := by
  rw [readMembers]
  cases name with
  | error problem => simp [Except.mapError, bind, Except.bind]
  | ok key =>
    simp only [Except.mapError, bind, Except.bind, Except.ok.injEq, exists_eq_left']
    cases hfind : r.fields.find? (·.name = key) with
    | none =>
      cases hskip : value.skip <;> simp
    | some field =>
      by_cases hseen : key ∈ seen
      · simp [hseen, throw, throwThe, MonadExceptOf.throw]
      · cases hread : field.read value s <;> simp [hseen, hread]

/-- The members of an object are those of a record, if the required ones are among them. -/
theorem decode_object {members : Members}
    (h : r.readMembers [] r.blank members = .ok (seen, s))
    (hrequired : r.requiredNames.find? (fun name => name ∉ seen) = none) :
    r.decode (.object members) = .ok s := by
  simp only [decode, h, bind, Except.bind, hrequired]
  rfl

/-- Where the members depend on the content of one of them alone, so does the object. -/
theorem decode_object_map {members : Members} {x : Except DecodeError α} {f : α → σ}
    (h : r.readMembers [] r.blank members = (fun a => (seen, f a)) <$> x)
    (hrequired : r.requiredNames.find? (fun name => name ∉ seen) = none) :
    r.decode (.object members) = f <$> x := by
  cases x with
  | error e =>
    rw [Except.map_error] at h
    simp only [decode, h, bind, Except.bind]
    rfl
  | ok a => exact decode_object h hrequired

/-- A record is read whole exactly if the content that it depends on is. -/
theorem map_eq_ok {f : α → σ} (hf : Function.Injective f) {x : Except DecodeError α} {a : α} :
    f <$> x = .ok (f a) ↔ x = .ok a := by
  cases x with
  | error e => exact iff_of_false nofun nofun
  | ok b => rw [Except.map_ok, Except.ok.injEq, Except.ok.injEq, hf.eq_iff]

/-- A property that a field does not break. -/
def Keeps (P : σ → Prop) (field : Field σ) : Prop :=
  ∀ d s s', P s → field.read d s = .ok s' → P s'

theorem keeps_of {P : σ → Prop} {decoder : Decoder α} {put : α → σ → σ}
    (h : ∀ d a, decoder d = .ok a → ∀ s, P s → P (put a s)) : Keeps P (.of name decoder put) := by
  intro d s s' hs hread
  obtain ⟨a, ha, hput⟩ := (andThen_eq_ok _ _ _).mp hread
  cases hput
  exact h d a ha s hs

variable {P : σ → Prop}

theorem readMembers_keeps (hr : ∀ field ∈ r.fields, Keeps P field) (members : Members)
    {seen : List String} {s : σ} {result : List String × σ} (hs : P s)
    (h : r.readMembers seen s members = .ok result) : P result.2 := by
  cases members with
  | closed =>
    cases h
    exact hs
  | member name value rest =>
    obtain ⟨key, -, ⟨-, -, hrest⟩ | ⟨field, s', hfield, -, hread, hrest⟩⟩ :=
      readMembers_member_eq_ok.1 h
    · exact readMembers_keeps hr rest hs hrest
    · have hs' := hr field (List.mem_of_find?_eq_some hfield) value s s' hs hread
      exact readMembers_keeps hr rest hs' hrest
  | _ => cases h

theorem readItems_keeps (items : Items) {fields : List (Field σ)} {count : Nat} {s : σ}
    {result : Nat × σ} (hfields : ∀ field ∈ fields, Keeps P field) (hs : P s)
    (h : readItems count s fields items = .ok result) : P result.2 := by
  cases items with
  | closed =>
    rw [readItems] at h
    cases h
    exact hs
  | stopped stop =>
    cases fields <;> cases h
  | item value rest =>
    cases fields with
    | nil => cases h
    | cons field fields =>
      obtain ⟨s', hread, h⟩ := (andThen_eq_ok _ _ _).mp h
      have hs' := hfields field List.mem_cons_self value s s' hs hread
      exact readItems_keeps rest (fun f hf => hfields f (List.mem_cons_of_mem field hf)) hs' h

/-- **What every field keeps** holds of a decoded record. -/
theorem decode_keeps {d : Document} (hblank : P r.blank) (hr : ∀ field ∈ r.fields, Keeps P field)
    (h : r.decode d = .ok s) : P s := by
  cases d with
  | object members =>
    obtain ⟨⟨seen, s'⟩, hread, h⟩ := (andThen_eq_ok _ _ _).mp h
    have hs' := readMembers_keeps hr members hblank hread
    dsimp only at h
    split at h
    · cases h
    · cases h
      exact hs'
  | array items =>
    obtain ⟨⟨count, s'⟩, hread, h⟩ := (andThen_eq_ok _ _ _).mp h
    have hs' := readItems_keeps items hr hblank hread
    dsimp only at h
    split_ifs at h
    · cases h
    · cases h
      exact hs'
  | _ => cases h

end Record

end WikibaseQuery

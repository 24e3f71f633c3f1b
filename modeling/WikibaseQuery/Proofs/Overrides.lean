import Mathlib.Data.List.Induction
import WikibaseQuery.Proofs.Records
import WikibaseQuery.Proofs.Shapes
import WikibaseQuery.Settings.Decode

/-!
# Settings that are named in part

An object names some of the settings, and its member for the namespaces names some of them in turn.
What is named is taken from it, and all else keeps its default, in whatever order the members stand
and whatever unknown ones stand among them.

* `Document.skip_eq_ok` — what is passed over: any JSON;
* `Record.exists_readMembers` — the members that a record takes;
* `Record.get_readMembers` — what they make of one part of it;
* `SubclassTable.lookup_ofEntries` — of two entries for a property the last one counts;
* `Settings.decode_overrides` — the settings that are decoded.
-/

namespace WikibaseQuery

/-! ## What is passed over -/

mutual

/-- The document is JSON to its end. -/
def Document.IsWhole : Document → Prop
  | .null | .bool _ | .number _ | .text _ => True
  | .array items => items.IsWhole
  | .object members => members.IsWhole
  | .broken _ => False

def Items.IsWhole : Items → Prop
  | .closed => True
  | .stopped _ => False
  | .item value rest => value.IsWhole ∧ rest.IsWhole

def Members.IsWhole : Members → Prop
  | .closed => True
  | .stopped _ | .oddKey | .brokenKey _ => False
  | .member _ value rest => value.IsWhole ∧ rest.IsWhole

end

mutual

/-- **Any JSON is passed over**, and nothing else is. -/
theorem Document.skip_eq_ok : (d : Document) → (d.skip = .ok () ↔ d.IsWhole)
  | .null | .bool _ | .number _ | .text _ => by simp [Document.skip, Document.IsWhole]
  | .array items => by rw [Document.skip, Document.IsWhole, items.skip_eq_ok]
  | .object members => by rw [Document.skip, Document.IsWhole, members.skip_eq_ok]
  | .broken fault => by simp [Document.skip, Document.IsWhole]

theorem Items.skip_eq_ok : (items : Items) → (items.skip = .ok () ↔ items.IsWhole)
  | .closed => by simp [Items.skip, Items.IsWhole]
  | .stopped stop => by simp [Items.skip, Items.IsWhole]
  | .item value rest => by
    rw [Items.skip, Items.IsWhole, andThen_eq_ok, ← value.skip_eq_ok, ← rest.skip_eq_ok]
    exact ⟨fun ⟨(), hvalue, hrest⟩ => ⟨hvalue, hrest⟩, fun ⟨hvalue, hrest⟩ => ⟨(), hvalue, hrest⟩⟩

theorem Members.skip_eq_ok : (members : Members) → (members.skip = .ok () ↔ members.IsWhole)
  | .closed => by simp [Members.skip, Members.IsWhole]
  | .stopped stop => by simp [Members.skip, Members.IsWhole]
  | .oddKey => by simp [Members.skip, Members.IsWhole]
  | .brokenKey fault => by simp [Members.skip, Members.IsWhole]
  | .member name value rest => by
    rw [Members.skip, Members.IsWhole, andThen_eq_ok, ← value.skip_eq_ok, ← rest.skip_eq_ok]
    exact ⟨fun ⟨(), hvalue, hrest⟩ => ⟨hvalue, hrest⟩, fun ⟨hvalue, hrest⟩ => ⟨(), hvalue, hrest⟩⟩

end

/-! ## Objects by their entries -/

/-- The members of these names and contents, up to the closing brace. -/
def Members.ofEntries : List (String × Document) → Members
  | [] => .closed
  | (name, value) :: rest => .member (.ok name) value (ofEntries rest)

namespace Json

theorem documentMembers_eq (members : List (String × Json)) :
    documentMembers members = .ofEntries (members.map fun e => (e.1, e.2.document)) := by
  induction members with
  | nil => rfl
  | cons member members ih =>
    obtain ⟨name, value⟩ := member
    rw [documentMembers, ih]
    rfl

mutual

/-- The document of a value is JSON to its end. -/
theorem isWhole_document : (j : Json) → j.document.IsWhole
  | .null | .bool _ | .number _ | .text _ => trivial
  | .array items => isWhole_documentItems items
  | .object members => isWhole_documentMembers members

theorem isWhole_documentItems : (items : List Json) → (documentItems items).IsWhole
  | [] => trivial
  | item :: items => ⟨item.isWhole_document, isWhole_documentItems items⟩

theorem isWhole_documentMembers :
    (members : List (String × Json)) → (documentMembers members).IsWhole
  | [] => trivial
  | (_, value) :: members => ⟨value.isWhole_document, isWhole_documentMembers members⟩

end

end Json

/-- What the members of a name give: nothing where there is none, and what it means where there is
one. -/
def Gives {α : Type} (means : Document → α → Prop) (entries : List (String × Document))
    (name : String) (given : Option α) : Prop :=
  List.Forall₂ means (held [name] entries) given.toList

theorem gives_cons {α : Type} {means : Document → α → Prop} {entries : List (String × Document)}
    {name key : String} {value : Document} {given : Option α} :
    Gives means ((key, value) :: entries) name given ↔
      if key = name then ∃ a, given = some a ∧ means value a ∧ held [name] entries = []
      else Gives means entries name given := by
  unfold Gives
  rw [held_cons]
  simp only [List.mem_singleton]
  split_ifs with h
  · cases given with
    | none => simp
    | some a => simp [List.forall₂_cons, List.forall₂_nil_right_iff]
  · rfl

theorem Gives.map {α β : Type} {means : Document → α → Prop} {means' : Document → β → Prop}
    {f : α → β} {entries : List (String × Document)} {name : String} {given : Option α}
    (h : Gives means entries name given) (hf : ∀ d a, means d a → means' d (f a)) :
    Gives means' entries name (given.map f) := by
  rw [Gives, Option.toList_map, List.forall₂_map_right_iff]
  exact List.Forall₂.imp hf h

/-! ## Records by their parts -/

namespace Record

variable {α σ : Type} {r : Record σ} {entries : List (String × Document)} {seen : List String}
  {s : σ}

/-- The members can be taken into a record of which some fields were seen: each field stands once at
most, and what it holds is decoded; what no field is named after is JSON. -/
structure Takes (r : Record σ) (seen : List String) (entries : List (String × Document)) :
    Prop where
  fields : ∀ field ∈ r.fields, held [field.name] entries = [] ∨ field.name ∉ seen ∧
    ∃ d, held [field.name] entries = [d] ∧ ∀ s, ∃ s', field.read d s = .ok s'
  others : ∀ e ∈ entries, (∀ field ∈ r.fields, field.name ≠ e.1) → e.2.IsWhole

/-- The members after one that is named after no field. -/
theorem Takes.other {key : String} {value : Document}
    (h : r.Takes seen ((key, value) :: entries)) (hkey : ∀ field ∈ r.fields, field.name ≠ key) :
    r.Takes seen entries := by
  refine ⟨fun field hfield => ?_, fun e he => h.others e (List.mem_cons_of_mem _ he)⟩
  have hall := h.fields field hfield
  rwa [held_cons, if_neg (by simpa using Ne.symm (hkey field hfield))] at hall

/-- The members after one that is named after a field, which stands there once only. -/
theorem Takes.field {key : String} {value : Document}
    (h : r.Takes seen ((key, value) :: entries)) : r.Takes (key :: seen) entries := by
  refine ⟨fun field hfield => ?_, fun e he => h.others e (List.mem_cons_of_mem _ he)⟩
  have hall := h.fields field hfield
  rw [held_cons] at hall
  by_cases hkey : key = field.name
  · rw [if_pos (by simpa using hkey)] at hall
    obtain hnil | ⟨-, d, hone, -⟩ := hall
    · exact absurd hnil (List.cons_ne_nil _ _)
    · exact .inl (List.cons.inj hone).2
  · rw [if_neg (by simpa using hkey)] at hall
    obtain hnil | ⟨hseen, hone⟩ := hall
    · exact .inl hnil
    · exact .inr ⟨List.not_mem_cons_of_ne_of_not_mem (Ne.symm hkey) hseen, hone⟩

/-- **The members that a record takes** are read into it. -/
theorem exists_readMembers (h : r.Takes seen entries) (s : σ) :
    ∃ result, r.readMembers seen s (.ofEntries entries) = .ok result := by
  induction entries generalizing seen s with
  | nil => exact ⟨_, rfl⟩
  | cons e entries ih =>
    obtain ⟨key, value⟩ := e
    simp only [Members.ofEntries, readMembers_member_eq_ok, Except.ok.injEq, exists_eq_left']
    cases hfind : r.fields.find? (·.name = key) with
    | none =>
      have hkey : ∀ field ∈ r.fields, field.name ≠ key := by simpa using hfind
      obtain ⟨result, hresult⟩ := ih (h.other hkey) s
      have hskip := value.skip_eq_ok.2 (h.others _ List.mem_cons_self hkey)
      exact ⟨result, .inl ⟨rfl, hskip, hresult⟩⟩
    | some field =>
      obtain rfl : field.name = key := by simpa using List.find?_some hfind
      have hheld : held [field.name] ((field.name, value) :: entries) =
          value :: held [field.name] entries := by
        rw [held_cons, if_pos (List.mem_singleton.2 rfl)]
      obtain hnil | ⟨hseen, d, hone, hread⟩ := h.fields field (List.mem_of_find?_eq_some hfind)
      · exact absurd (hheld.symm.trans hnil) (List.cons_ne_nil _ _)
      · obtain ⟨rfl, -⟩ := List.cons.inj (hheld.symm.trans hone)
        obtain ⟨s', hs'⟩ := hread s
        obtain ⟨result, hresult⟩ := ih h.field s'
        exact ⟨result, .inr ⟨field, s', rfl, hseen, hs', hresult⟩⟩

/-! ### One part of a record -/

/-- A part of a record that one field puts there, and no other field changes. -/
structure IsPart (r : Record σ) (name : String) (decoder : Decoder α) (put : α → σ → σ)
    (get : σ → α) : Prop where
  field : r.fields.find? (·.name = name) = some (.of name decoder put)
  get_put : ∀ a s, get (put a s) = a
  others : ∀ field ∈ r.fields, field.name ≠ name → ∀ c, Keeps (fun s => get s = c) field

variable {name : String} {decoder : Decoder α} {put : α → σ → σ} {get : σ → α}

/-- **What the members make of one part**: it is what they give, and without that it stays. -/
theorem get_readMembers (hp : r.IsPart name decoder put get) {given : Option α}
    (hgiven : Gives (fun d a => decoder d = .ok a) entries name given) {result : List String × σ}
    (h : r.readMembers seen s (.ofEntries entries) = .ok result) :
    get result.2 = given.getD (get s) := by
  induction entries generalizing seen s given with
  | nil =>
    cases h
    cases given with
    | none => rfl
    | some a => cases hgiven
  | cons e entries ih =>
    obtain ⟨key, value⟩ := e
    rw [gives_cons] at hgiven
    obtain ⟨key', hkey', hstep⟩ := readMembers_member_eq_ok.1 h
    obtain rfl := Except.ok.inj hkey'
    split_ifs at hgiven with hname
    · -- The member of the part: after it there is no other one.
      subst hname
      obtain ⟨a, rfl, hvalue, hnone⟩ := hgiven
      have hrest : Gives (fun d a => decoder d = .ok a) entries key none := by
        rw [Gives, hnone]
        exact .nil
      obtain ⟨hfind, -, -⟩ | ⟨field, s', hfield, -, hread, hresult⟩ := hstep
      · exact absurd (hfind.symm.trans hp.field) (by simp)
      · obtain rfl := Option.some.inj (hfield.symm.trans hp.field)
        obtain ⟨b, hb, hput⟩ := (andThen_eq_ok _ _ _).1 hread
        obtain rfl := Except.ok.inj (hb.symm.trans hvalue)
        cases hput
        exact (ih hrest hresult).trans (hp.get_put b s)
    · obtain ⟨-, -, hresult⟩ | ⟨field, s', hfield, -, hread, hresult⟩ := hstep
      · exact ih hgiven hresult
      · have hkeyed : field.name = key := by simpa using List.find?_some hfield
        have hother : field.name ≠ name := fun heq => hname (hkeyed.symm.trans heq)
        have hmem := List.mem_of_find?_eq_some hfield
        have hkept := hp.others field hmem hother (get s) value s s' rfl hread
        rw [ih hgiven hresult, hkept]

/-- A field is missing, or what its one member holds can be put into the record. -/
theorem exists_read_of_gives {name : String} {decoder : Decoder α} {given : Option α}
    (h : Gives (fun d a => decoder d = .ok a) entries name given) (put : α → σ → σ) :
    held [name] entries = [] ∨ name ∉ ([] : List String) ∧
      ∃ d, held [name] entries = [d] ∧
        ∀ s, ∃ s', (Field.of name decoder put).read d s = .ok s' := by
  cases given with
  | none => exact .inl (List.forall₂_nil_right_iff.1 h)
  | some a =>
    obtain ⟨d, rest, hd, hrest, hheld⟩ := List.forall₂_cons_right_iff.1 h
    obtain rfl := List.forall₂_nil_right_iff.1 hrest
    exact .inr ⟨List.not_mem_nil, d, hheld, fun s => ⟨put a s, by simp [Field.of, hd]⟩⟩

/-- A part that a field does not put anything into is kept by it. -/
theorem keeps_get {β : Type} {name : String} {decoder : Decoder β} {put : β → σ → σ} {get : σ → α}
    (h : ∀ b s, get (put b s) = get s) (c : α) :
    Keeps (fun s => get s = c) (.of name decoder put) :=
  keeps_of fun _ b _ s hs => (h b s).trans hs

end Record

/-! ## Content -/

/-- The document is the text. -/
def Document.IsText (d : Document) (s : String) : Prop := d = .text (.ok s)

/-- The document is a text, or `null` for none. -/
def Document.IsTextOrNull (d : Document) : Option String → Prop
  | none => d = .null
  | some s => d.IsText s

/-- The document is an object with these names and texts, in order. -/
def Document.IsTextTable (d : Document) (table : List (String × String)) : Prop :=
  d = .object (.ofEntries (table.map fun e => (e.1, .text (.ok e.2))))

theorem Document.IsText.decode {d : Document} {s : String} (h : d.IsText s) :
    d.decodeText = .ok s := by
  rw [h, decodeText]

theorem Document.IsTextOrNull.decode {d : Document} {s : Option String} (h : d.IsTextOrNull s) :
    d.decodeText? = .ok s := by
  cases s with
  | none =>
    obtain rfl : d = .null := h
    rfl
  | some s =>
    obtain rfl : d = .text (.ok s) := h
    rfl

theorem Members.decode_ofEntries (table : List (String × String)) :
    (Members.ofEntries (table.map fun e => (e.1, .text (.ok e.2)))).decode Document.decodeText =
      .ok table := by
  induction table with
  | nil => rfl
  | cons e table ih =>
    simp only [List.map_cons, ofEntries, decode, Except.mapError, Document.decodeText, ih, bind,
      Except.bind]
    rfl

theorem Document.IsTextTable.decode {d : Document} {table : List (String × String)}
    (h : d.IsTextTable table) : SubclassTable.decode d = .ok (.ofEntries table) := by
  rw [h, SubclassTable.decode, decodeTable, Members.decode_ofEntries]
  rfl

namespace SubclassTable

/-- **Of two entries for a property the last one counts.** -/
theorem lookup_ofEntries (entries : List (String × String)) (property : String) :
    (ofEntries entries).lookup property = entries.reverse.lookup property := by
  induction entries using List.reverseRecOn with
  | nil => rfl
  | append_singleton entries entry ih =>
    obtain ⟨key, subclass⟩ := entry
    have hstep : ofEntries (entries ++ [(key, subclass)]) =
        (ofEntries entries).insert key subclass := by
      rw [ofEntries, List.foldl_append]
      rfl
    rw [hstep, List.reverse_append, List.reverse_singleton, List.singleton_append, List.lookup_cons]
    by_cases h : property = key
    · subst h
      simp
    · have hne : (property == key) = false := by simpa using h
      rw [lookup_insert_of_ne _ _ h, ih, hne]

end SubclassTable

/-! ## Namespaces -/

namespace Namespaces

/-- The names of the namespaces. -/
def labels : List String :=
  ["wd", "wdt", "p", "ps", "psv", "psn", "wikibase", "prov", "bd", "hint", "xsd"]

/-- The default namespaces, but for those that are given. -/
def overridden (given : String → Option String) : Namespaces :=
  let default : Namespaces := {}
  { wd := (given "wd").getD default.wd
    wdt := (given "wdt").getD default.wdt
    p := (given "p").getD default.p
    ps := (given "ps").getD default.ps
    psv := (given "psv").getD default.psv
    psn := (given "psn").getD default.psn
    wikibase := (given "wikibase").getD default.wikibase
    prov := (given "prov").getD default.prov
    bd := (given "bd").getD default.bd
    hint := (given "hint").getD default.hint
    xsd := (given "xsd").getD default.xsd }

/-- The members name these namespaces, each once at most, and whatever else they are is JSON. -/
structure NamedBy (entries : List (String × Document)) (given : String → Option String) : Prop where
  labels : ∀ label ∈ labels, Gives Document.IsText entries label (given label)
  others : ∀ e ∈ entries, e.1 ∉ Namespaces.labels → e.2.IsWhole

/-- The namespaces by their names. -/
def parts : List (String × (String → Namespaces → Namespaces) × (Namespaces → String)) :=
  [ ("wd", fun wd n => { n with wd }, wd), ("wdt", fun wdt n => { n with wdt }, wdt),
    ("p", fun p n => { n with p }, p), ("ps", fun ps n => { n with ps }, ps),
    ("psv", fun psv n => { n with psv }, psv), ("psn", fun psn n => { n with psn }, psn),
    ("wikibase", fun wikibase n => { n with wikibase }, wikibase),
    ("prov", fun prov n => { n with prov }, prov), ("bd", fun bd n => { n with bd }, bd),
    ("hint", fun hint n => { n with hint }, hint), ("xsd", fun xsd n => { n with xsd }, xsd) ]

theorem fields_record :
    record.fields = parts.map fun part => .of part.1 Document.decodeText part.2.1 := rfl

/-- Each namespace is a part of its own. -/
theorem isPart : ∀ part ∈ parts, record.IsPart part.1 Document.decodeText part.2.1 part.2.2 := by
  have hfind : ∀ part ∈ parts, record.fields.find? (·.name = part.1) =
      some (.of part.1 Document.decodeText part.2.1) := by
    simp only [parts, List.forall_mem_cons]
    exact ⟨rfl, rfl, rfl, rfl, rfl, rfl, rfl, rfl, rfl, rfl, rfl, List.forall_mem_nil _⟩
  have hput : ∀ part ∈ parts, ∀ s n, part.2.2 (part.2.1 s n) = s := by
    simp [parts]
  have hother : ∀ part ∈ parts, ∀ other ∈ parts, other.1 ≠ part.1 → ∀ s n,
      part.2.2 (other.2.1 s n) = part.2.2 n := by
    simp [parts]
  intro part hpart
  refine ⟨hfind part hpart, hput part hpart, fun field hfield hne => ?_⟩
  rw [fields_record] at hfield
  obtain ⟨other, hmem, rfl⟩ := List.mem_map.1 hfield
  exact Record.keeps_get (hother part hpart other hmem hne)

/-- The namespaces are what their parts are. -/
theorem eq_of_parts {n m : Namespaces} (h : ∀ part ∈ parts, part.2.2 n = part.2.2 m) : n = m := by
  cases n
  cases m
  simpa [parts] using h

theorem get_overridden (given : String → Option String) :
    ∀ part ∈ parts, part.2.2 (overridden given) = (given part.1).getD (part.2.2 {}) := by
  simp [parts, overridden]

variable {entries : List (String × Document)} {given : String → Option String}

theorem NamedBy.takes (h : NamedBy entries given) : record.Takes [] entries := by
  constructor
  · rw [fields_record, List.forall_mem_map]
    intro part hpart
    have hlabel : part.1 ∈ Namespaces.labels := List.mem_map_of_mem (f := Prod.fst) hpart
    exact Record.exists_read_of_gives ((h.labels _ hlabel).imp fun _ _ => Document.IsText.decode) _
  · intro e he hne
    refine h.others e he fun hlabel => ?_
    obtain ⟨part, hpart, hname⟩ := List.mem_map.1 (show e.1 ∈ parts.map Prod.fst from hlabel)
    exact hne _ (fields_record ▸ List.mem_map_of_mem hpart) hname

/-- **The namespaces that are decoded**: those that are named, and the defaults of the others. -/
theorem decode_named (h : NamedBy entries given) :
    record.decode (.object (.ofEntries entries)) = .ok (overridden given) := by
  obtain ⟨⟨seen, n⟩, hread⟩ := Record.exists_readMembers h.takes record.blank
  have hn : n = overridden given := eq_of_parts fun part hpart => by
    have hlabel : part.1 ∈ Namespaces.labels := List.mem_map_of_mem (f := Prod.fst) hpart
    have hgives := (h.labels _ hlabel).imp fun _ _ => Document.IsText.decode
    rw [get_overridden given part hpart]
    exact Record.get_readMembers (isPart part hpart) hgives hread
  rw [Record.decode_object hread rfl, hn]

end Namespaces

/-! ## Settings -/

/-- What an object has to put in place of the default settings. -/
structure Overrides where
  /-- The conversion property, or `none` for the settings to have none. -/
  conversionProperty : Option (Option String) := none
  /-- The entries of the subclass table in order; of two for one property the last one counts. -/
  subclassProperties : Option (List (String × String)) := none
  /-- The namespaces by their names. -/
  namespaces : Option (String → Option String) := none
  labelLanguage : Option String := none

/-- The document is an object whose members name these namespaces. -/
def Document.AreNamespaces (d : Document) (given : String → Option String) : Prop :=
  ∃ entries, d = .object (.ofEntries entries) ∧ Namespaces.NamedBy entries given

namespace Overrides

/-- The names of the settings. -/
def names : List String :=
  ["siConversionProperty", "subclassPropertyMap", "namespaces", "labelLanguage"]

/-- The members name these settings, each once at most, and whatever else they are is JSON. -/
structure NamedBy (o : Overrides) (entries : List (String × Document)) : Prop where
  conversionProperty :
    Gives Document.IsTextOrNull entries "siConversionProperty" o.conversionProperty
  subclassProperties : Gives Document.IsTextTable entries "subclassPropertyMap" o.subclassProperties
  namespaces : Gives Document.AreNamespaces entries "namespaces" o.namespaces
  labelLanguage : Gives Document.IsText entries "labelLanguage" o.labelLanguage
  others : ∀ e ∈ entries, e.1 ∉ names → e.2.IsWhole

/-- The default settings with these in their place. -/
def settings (o : Overrides) : Settings :=
  let default : Settings := {}
  { conversionProperty := o.conversionProperty.getD default.conversionProperty
    subclassProperties := (o.subclassProperties.map .ofEntries).getD default.subclassProperties
    namespaces := (o.namespaces.map Namespaces.overridden).getD default.namespaces
    labelLanguage := o.labelLanguage.getD default.labelLanguage }

end Overrides

namespace Settings

variable {entries : List (String × Document)} {o : Overrides}

theorem isPart_conversionProperty : record.IsPart "siConversionProperty" Document.decodeText?
    (fun conversionProperty s => { s with conversionProperty }) conversionProperty where
  field := rfl
  get_put _ _ := rfl
  others := by
    simp only [record, List.forall_mem_cons]
    exact ⟨fun h => absurd rfl h, fun _ => Record.keeps_get fun _ _ => rfl,
      fun _ => Record.keeps_get fun _ _ => rfl, fun _ => Record.keeps_get fun _ _ => rfl,
      List.forall_mem_nil _⟩

theorem isPart_subclassProperties : record.IsPart "subclassPropertyMap" SubclassTable.decode
    (fun subclassProperties s => { s with subclassProperties }) subclassProperties where
  field := rfl
  get_put _ _ := rfl
  others := by
    simp only [record, List.forall_mem_cons]
    exact ⟨fun _ => Record.keeps_get fun _ _ => rfl, fun h => absurd rfl h,
      fun _ => Record.keeps_get fun _ _ => rfl, fun _ => Record.keeps_get fun _ _ => rfl,
      List.forall_mem_nil _⟩

theorem isPart_namespaces : record.IsPart "namespaces" Namespaces.record.decode
    (fun namespaces s => { s with namespaces }) namespaces where
  field := rfl
  get_put _ _ := rfl
  others := by
    simp only [record, List.forall_mem_cons]
    exact ⟨fun _ => Record.keeps_get fun _ _ => rfl, fun _ => Record.keeps_get fun _ _ => rfl,
      fun h => absurd rfl h, fun _ => Record.keeps_get fun _ _ => rfl, List.forall_mem_nil _⟩

theorem isPart_labelLanguage : record.IsPart "labelLanguage" Document.decodeText
    (fun labelLanguage s => { s with labelLanguage }) labelLanguage where
  field := rfl
  get_put _ _ := rfl
  others := by
    simp only [record, List.forall_mem_cons]
    exact ⟨fun _ => Record.keeps_get fun _ _ => rfl, fun _ => Record.keeps_get fun _ _ => rfl,
      fun _ => Record.keeps_get fun _ _ => rfl, fun h => absurd rfl h, List.forall_mem_nil _⟩

end Settings

namespace Overrides

/-- What the decoders of the fields make of the members. -/
structure DecodedFrom (o : Overrides) (entries : List (String × Document)) : Prop where
  conversionProperty : Gives (fun d a => d.decodeText? = .ok a) entries "siConversionProperty"
    o.conversionProperty
  subclassProperties : Gives (fun d a => SubclassTable.decode d = .ok a) entries
    "subclassPropertyMap" (o.subclassProperties.map .ofEntries)
  namespaces : Gives (fun d a => Namespaces.record.decode d = .ok a) entries "namespaces"
    (o.namespaces.map Namespaces.overridden)
  labelLanguage : Gives (fun d a => d.decodeText = .ok a) entries "labelLanguage" o.labelLanguage

variable {entries : List (String × Document)} {o : Overrides}

theorem NamedBy.decodedFrom (h : o.NamedBy entries) : o.DecodedFrom entries where
  conversionProperty := h.conversionProperty.imp fun _ _ => Document.IsTextOrNull.decode
  subclassProperties := h.subclassProperties.map fun _ _ => Document.IsTextTable.decode
  namespaces := h.namespaces.map fun _ _ => fun ⟨_, hd, hnamed⟩ =>
    hd ▸ Namespaces.decode_named hnamed
  labelLanguage := h.labelLanguage.imp fun _ _ => Document.IsText.decode

theorem NamedBy.takes (h : o.NamedBy entries) : Settings.record.Takes [] entries := by
  have hdecoded := h.decodedFrom
  constructor
  · simp only [Settings.record, List.forall_mem_cons]
    exact ⟨Record.exists_read_of_gives hdecoded.conversionProperty _,
      Record.exists_read_of_gives hdecoded.subclassProperties _,
      Record.exists_read_of_gives hdecoded.namespaces _,
      Record.exists_read_of_gives hdecoded.labelLanguage _, List.forall_mem_nil _⟩
  · intro e he hne
    refine h.others e he fun hname => ?_
    obtain ⟨field, hfield, hkey⟩ :=
      List.mem_map.1 (show e.1 ∈ Settings.record.fields.map Field.name from hname)
    exact hne field hfield hkey

end Overrides

namespace Settings

variable {entries : List (String × Document)} {o : Overrides}

theorem decode_named (h : o.NamedBy entries) :
    record.decode (.object (.ofEntries entries)) = .ok o.settings := by
  obtain ⟨⟨seen, s⟩, hread⟩ := Record.exists_readMembers h.takes record.blank
  have hdecoded := h.decodedFrom
  have hconversion := Record.get_readMembers isPart_conversionProperty hdecoded.conversionProperty
    hread
  have hsubclass := Record.get_readMembers isPart_subclassProperties hdecoded.subclassProperties
    hread
  have hnamespaces := Record.get_readMembers isPart_namespaces hdecoded.namespaces hread
  have hlanguage := Record.get_readMembers isPart_labelLanguage hdecoded.labelLanguage hread
  have hs : s = o.settings := by
    cases s
    simp only [Overrides.settings, Settings.mk.injEq]
    exact ⟨hconversion, hsubclass, hnamespaces, hlanguage⟩
  rw [Record.decode_object hread rfl, hs]

/-- **The settings that an object names in part.**  What it names is taken from it and all else
keeps its default, in whatever order the members stand and whatever unknown ones stand among them;
of the subclass properties of one property the last one counts. -/
theorem decode_overrides {text : String} {rest : List Char} (h : o.NamedBy entries)
    (hread : Document.read text.toList = (.object (.ofEntries entries), rest))
    (hrest : dropBlanks rest = []) :
    Settings.decode text = .ok o.settings ∧
      ∀ property, o.settings.subclassProperties.lookup property =
        (o.subclassProperties.getD []).reverse.lookup property := by
  constructor
  · rw [Settings.decode, decodeFrom, hread]
    simp only [decode_named h, bind, Except.bind, hrest, if_true]
    rfl
  · intro property
    cases htable : o.subclassProperties with
    | none => simp [Overrides.settings, htable]
    | some table =>
      simpa [Overrides.settings, htable] using SubclassTable.lookup_ofEntries table property

/-- Settings with a comment in front, two namespaces and a comment between them, no conversion
property, and two entries for one property. -/
def partialSettings : List (String × Json) :=
  [ ("comment", .array [.null, .object [("labelLanguage", .text "en")]]),
    ("namespaces", .object [("wdt", .text "http://wiki.test/direct/"), ("labels", .array []),
      ("wd", .text "")]),
    ("subclassPropertyMap", .object [("P31", .text "P279"), ("P31", .text "P1647")]),
    ("siConversionProperty", .null) ]

/-- What they put in place of the defaults. -/
def partialOverrides : Overrides where
  conversionProperty := some none
  subclassProperties := some [("P31", "P279"), ("P31", "P1647")]
  namespaces := some fun label =>
    [("wd", ""), ("wdt", "http://wiki.test/direct/")].lookup label

/-- Of the namespaces two are named. -/
theorem partialNamespaces_namedBy : Namespaces.NamedBy
    [ ("wdt", .text (.ok "http://wiki.test/direct/")), ("labels", .array .closed),
      ("wd", .text (.ok "")) ]
    fun label => [("wd", ""), ("wdt", "http://wiki.test/direct/")].lookup label where
  labels := by
    simp only [Namespaces.labels, List.forall_mem_cons]
    exact ⟨.cons rfl .nil, .cons rfl .nil, .nil, .nil, .nil, .nil, .nil, .nil, .nil, .nil, .nil,
      List.forall_mem_nil _⟩
  others := by simp [Document.IsWhole, Items.IsWhole]

theorem partialOverrides_namedBy :
    partialOverrides.NamedBy (partialSettings.map fun e => (e.1, e.2.document)) where
  conversionProperty := .cons rfl .nil
  subclassProperties := .cons rfl .nil
  namespaces := .cons ⟨_, rfl, partialNamespaces_namedBy⟩ .nil
  labelLanguage := .nil
  others := List.forall_mem_map.2 fun e _ _ => e.2.isWhole_document

/-- The other namespaces keep their defaults, an empty text is a namespace as well, and the second
entry for the property counts. -/
theorem decode_overrides_partialSettings :
    Settings.decode (String.ofList (Json.object partialSettings).print) = .ok
        { subclassProperties := [("P31", "P1647")]
          namespaces := { wd := "", wdt := "http://wiki.test/direct/" } } := by
  have hread : Document.read (String.ofList (Json.object partialSettings).print).toList =
      (.object (.ofEntries (partialSettings.map fun e => (e.1, e.2.document))), []) := by
    rw [String.toList_ofList, Document.read_print, Json.document, Json.documentMembers_eq]
  exact (decode_overrides partialOverrides_namedBy hread rfl).1

end Settings

end WikibaseQuery

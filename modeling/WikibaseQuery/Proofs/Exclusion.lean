import WikibaseQuery.Proofs.Families

/-!
# What is excluded where a value should not match

A condition on a text or an entity that should match follows a path from a statement to the value.
One that should not match finds statements with any value, and excludes the items that have the
value.  The path to what it excludes is put together in a place of its own, and this file compares
the two.

* `Condition.NamesValue` — which value a condition names, and along which steps a statement has it;
* `statementPatterns_matching`, `statementPatterns_notMatching` — the two for any value and any tail
  of the path;
* `Condition.notMatching_excludes` — what is excluded is what would match.
-/

namespace WikibaseQuery

/-- The value that a condition on a text or an entity names, and the steps from a statement to
it. -/
inductive Condition.NamesValue (s : Settings) (c : Condition) : (value : Term) → List Path → Prop
  /-- A plain text or an external id, as a literal. -/
  | text {text : String} : c.datatype = .string ∨ c.datatype = .externalId → c.value = .text text →
      NamesValue s c (.literal (.plain text)) [.iri (s.namespaces.statement c.property)]
  /-- A URL, as an IRI. -/
  | url {text : String} : c.datatype = .url → c.value = .text text →
      NamesValue s c (.iri ⟨text⟩) [.iri (s.namespaces.statement c.property)]
  /-- An entity by its IRI. -/
  | entity {id : String} : Family.ofDatatype c.datatype = .entity →
      ¬ (c.datatype = .item ∧ c.subclasses = true) → c.value = .entity id →
      NamesValue s c (s.namespaces.entity id) [.iri (s.namespaces.statement c.property)]
  /-- An item, which may be reached through any number of subclass links. -/
  | subclasses {id subclass : String} : c.datatype = .item → c.subclasses = true →
      c.value = .entity id → s.subclassProperty c.property = .ok subclass →
      NamesValue s c (s.namespaces.entity id)
        [.iri (s.namespaces.statement c.property), .zeroOrMore (s.namespaces.direct subclass)]

/-- The condition in another relation to its value, with nothing asked of references and nothing
ruled out. -/
def Condition.inRelation (c : Condition) (relation : Relation) : Condition :=
  { c with relation, references := .regardless, negate := false }

section

variable {s : Settings} {n : Namespaces} {c : Condition} {scope : Scope}

/-! ## Statements by a term -/

theorem statementPatterns_matching (value : Term) (tail : List Path) :
    statementPatterns n (c.inRelation .matching) scope value tail = scope.index >>= fun i =>
      .ok [statementLink n c.property i (.sequence (.iri (n.statement c.property) :: tail))
        value] :=
  rfl

theorem statementPatterns_notMatching (value : Term) (tail : List Path) :
    statementPatterns n (c.inRelation .notMatching) scope value tail = scope.index >>= fun i =>
      .ok [ statementLink n c.property i (.sequence [.iri (n.statement c.property)])
              (Variable.numbered "instance" i),
            .minus [.triple Variable.item (.sequence
              (.iri (n.claim c.property) :: .iri (n.statement c.property) :: tail)) value] ] :=
  rfl

/-- For one value and one tail of the path, both fail for the same reason or what the one excludes
is what the other matches. -/
theorem statementPatterns_opposed (value : Term) (tail : List Path) :
    (∃ e, statementPatterns n (c.inRelation .matching) scope value tail = .error e ∧
      statementPatterns n (c.inRelation .notMatching) scope value tail = .error e) ∨
    ∃ i, scope.position = some i ∧
      statementPatterns n (c.inRelation .matching) scope value tail =
        .ok [statementLink n c.property i (.sequence (.iri (n.statement c.property) :: tail))
          value] ∧
      statementPatterns n (c.inRelation .notMatching) scope value tail =
        .ok [ statementLink n c.property i (.sequence [.iri (n.statement c.property)])
                (Variable.numbered "instance" i),
              .minus [.triple Variable.item (.sequence
                (.iri (n.claim c.property) :: .iri (n.statement c.property) :: tail)) value] ] := by
  rw [statementPatterns_matching, statementPatterns_notMatching]
  cases hi : scope.index with
  | error e => exact .inl ⟨e, rfl, rfl⟩
  | ok i => exact .inr ⟨i, Scope.index_eq_ok.1 hi, rfl, rfl⟩

/-! ## Subclass links -/

/-- Subclass links are looked up in the same way whether or not the value should match. -/
theorem subclassTail_inRelation {relation : Relation}
    (hr : relation = .matching ∨ relation = .notMatching) :
    subclassTail s (c.inRelation relation) =
      if c.datatype = .item ∧ c.subclasses = true then
        match s.subclassProperty c.property with
        | .ok subclass => .ok [.zeroOrMore (s.namespaces.direct subclass)]
        | .error setting => .error (.missingSetting setting)
      else .ok [] := by
  unfold subclassTail
  by_cases hitem : c.datatype = .item ∧ c.subclasses = true
  · rw [if_pos hitem]
    exact if_pos ⟨hitem.1, hitem.2, hr⟩
  · rw [if_neg hitem]
    exact if_neg fun h => hitem ⟨h.1, h.2.1⟩

/-- The steps to an entity are the property, and for items with subclasses the subclass links. -/
theorem Condition.namesValue_entity {id : String} {tail : List Path}
    (hf : Family.ofDatatype c.datatype = .entity) (hv : c.value = .entity id)
    (h : subclassTail s (c.inRelation .matching) = .ok tail) :
    c.NamesValue s (s.namespaces.entity id)
      (.iri (s.namespaces.statement c.property) :: tail) := by
  rw [subclassTail_inRelation (.inl rfl)] at h
  by_cases hitem : c.datatype = .item ∧ c.subclasses = true
  · rw [if_pos hitem] at h
    cases hsubclass : s.subclassProperty c.property with
    | error setting =>
      rw [hsubclass] at h
      cases h
    | ok subclass =>
      rw [hsubclass] at h
      cases h
      exact .subclasses hitem.1 hitem.2 hv hsubclass
  · rw [if_neg hitem] at h
    cases h
    exact .entity hf hitem hv

/-- A text is a literal, unless it is the text of a URL. -/
theorem Condition.namesValue_text {text : String} (hf : Family.ofDatatype c.datatype = .text)
    (hv : c.value = .text text) :
    c.NamesValue s (if c.datatype = .url then .iri ⟨text⟩ else .literal (.plain text))
      [.iri (s.namespaces.statement c.property)] := by
  by_cases hurl : c.datatype = .url
  · rw [if_pos hurl]
    exact .url hurl hv
  · rw [if_neg hurl]
    refine .text ?_ hv
    cases hd : c.datatype <;> simp_all [Family.ofDatatype]

/-! ## Texts and entities -/

theorem textPatterns_inRelation (relation : Relation) :
    textPatterns s (c.inRelation relation) scope =
      match c.value with
      | .text text => statementPatterns s.namespaces (c.inRelation relation) scope
          (if c.datatype = .url then .iri ⟨text⟩ else .literal (.plain text)) []
      | value => .error (.unexpectedValue c.datatype "string" value.kind) := rfl

/-- An entity has to be named where it should match and where it should not. -/
theorem entityPatterns_inRelation {relation : Relation}
    (hr : relation = .matching ∨ relation = .notMatching) :
    entityPatterns s (c.inRelation relation) scope =
      match c.value with
      | .entity id => subclassTail s (c.inRelation .matching) >>= fun tail =>
          statementPatterns s.namespaces (c.inRelation relation) scope (s.namespaces.entity id) tail
      | value => .error (.unexpectedValue c.datatype "entity reference" value.kind) := by
  have htail : subclassTail s (c.inRelation relation) = subclassTail s (c.inRelation .matching) :=
    (subclassTail_inRelation hr).trans (subclassTail_inRelation (.inl rfl)).symm
  rw [← htail]
  unfold entityPatterns
  rcases hr with rfl | rfl <;> cases hv : c.value <;> simp [Condition.inRelation, hv]

/-- **What is excluded is what would match.**  A condition on a text or an entity fails for the same
reason whether its value should match or should not.  Otherwise the one finds the statements that
have the value, along some steps, and the other finds all statements of the property and excludes
the items that have the same value along the same steps. -/
theorem Condition.notMatching_excludes (s : Settings) (c : Condition) (scope : Scope)
    (hf : Family.ofDatatype c.datatype = .text ∨ Family.ofDatatype c.datatype = .entity) :
    (∃ e, (c.inRelation .matching).patterns s scope = .error e ∧
      (c.inRelation .notMatching).patterns s scope = .error e) ∨
    ∃ i value steps, scope.position = some i ∧ c.NamesValue s value steps ∧
      (c.inRelation .matching).patterns s scope =
        .ok [statementLink s.namespaces c.property i (.sequence steps) value] ∧
      (c.inRelation .notMatching).patterns s scope =
        .ok [ statementLink s.namespaces c.property i
                (.sequence [.iri (s.namespaces.statement c.property)])
                (Variable.numbered "instance" i),
              .minus [.triple Variable.item
                (.sequence (.iri (s.namespaces.claim c.property) :: steps)) value] ] := by
  have hfamily : ∀ relation, Family.ofDatatype (c.inRelation relation).datatype =
      Family.ofDatatype c.datatype := fun _ => rfl
  rw [patterns_eq, patterns_eq, hfamily, hfamily]
  rcases hf with hf | hf
  · simp only [hf, textPatterns_inRelation]
    split
    · rename_i text hv
      rcases statementPatterns_opposed _ [] with hfails | ⟨i, hi, hbuilt⟩
      · exact .inl hfails
      · exact .inr ⟨i, _, _, hi, namesValue_text hf hv, hbuilt⟩
    · exact .inl ⟨_, rfl, rfl⟩
  · rw [hf]
    dsimp only
    rw [entityPatterns_inRelation (.inl rfl), entityPatterns_inRelation (.inr rfl)]
    split
    · rename_i id hv
      cases htail : subclassTail s (c.inRelation .matching) with
      | error e => exact .inl ⟨e, rfl, rfl⟩
      | ok tail =>
        rcases statementPatterns_opposed _ tail with hfails | ⟨i, hi, hbuilt⟩
        · exact .inl hfails
        · exact .inr ⟨i, _, _, hi, namesValue_entity hf hv htail, hbuilt⟩
    · exact .inl ⟨_, rfl, rfl⟩

/-- Items that are settlements, or of a kind of settlement. -/
def settlement : Condition :=
  ⟨"P31", .item, .entity "Q486972", .regardless, .present, true, true, none⟩

/-- Settings in which a kind is a subclass (`P279`) of another one. -/
def kindsOfItems : Settings := { subclassProperties := [("default", "P279")] }

/-- Kinds of settlements are excluded along the subclass links along which they would match: one path
with the same steps, after the one from the item to the statement. -/
theorem Condition.notMatching_excludes_settlement :
    (Family.ofDatatype settlement.datatype = .text ∨
      Family.ofDatatype settlement.datatype = .entity) ∧
    ∃ value steps, settlement.NamesValue kindsOfItems value steps ∧
      (settlement.inRelation .matching).patterns kindsOfItems ⟨some 2, ""⟩ =
        .ok [.triples
          [ ⟨.var ⟨"item"⟩, .iri ⟨"http://www.wikidata.org/prop/P31"⟩, .var ⟨"statement2"⟩⟩,
            ⟨.var ⟨"statement2"⟩, .compound .sequence steps, value⟩ ]] ∧
      (settlement.inRelation .notMatching).patterns kindsOfItems ⟨some 2, ""⟩ =
        .ok
          [ .triples
              [ ⟨.var ⟨"item"⟩, .iri ⟨"http://www.wikidata.org/prop/P31"⟩, .var ⟨"statement2"⟩⟩,
                ⟨.var ⟨"statement2"⟩,
                  .compound .sequence [.iri ⟨"http://www.wikidata.org/prop/statement/P31"⟩],
                  .var ⟨"instance2"⟩⟩ ],
            .minus [.triples
              [⟨.var ⟨"item"⟩,
                .compound .sequence (.iri ⟨"http://www.wikidata.org/prop/P31"⟩ :: steps), value⟩]] ] := by
  have hf : Family.ofDatatype settlement.datatype = .entity := rfl
  refine ⟨.inr hf, ?_⟩
  rcases notMatching_excludes kindsOfItems settlement ⟨some 2, ""⟩ (.inr hf) with
    ⟨e, hmatching, -⟩ | ⟨i, value, steps, hi, hnames, hmatching, hnotMatching⟩
  · cases hmatching
  · cases hi
    exact ⟨value, steps, hnames, hmatching, hnotMatching⟩

end

end WikibaseQuery

import WikibaseQuery.Proofs.Families

/-!
# What negation does to the patterns of a condition

A negated condition takes away what the condition finds.  Its patterns are built like those of the
condition itself, so they fail for the same reasons; but where a condition on a text or an entity
excludes a value, the exclusion is not taken away with the rest.

* `Negated` — how the patterns of a negated condition come from those of the condition;
* `statementPatterns_negate` — negation of a statement by a term, where the exclusion stands apart;
* `Condition.patterns_negate` — negation of any condition.
-/

namespace WikibaseQuery

/-- Whether the condition takes away the items that have its value. -/
def Condition.excludesValue (c : Condition) : Bool :=
  c.relation = .notMatching &&
    (Family.ofDatatype c.datatype = .text || Family.ofDatatype c.datatype = .entity)

/-- The pattern that takes away the items which have the value of the property. -/
def exclusion (n : Namespaces) (property : String) (tail : List Path) (value : Term) : Pattern :=
  .minus [.triple Variable.item
    (.sequence (.iri (n.claim property) :: .iri (n.statement property) :: tail)) value]

/-- The patterns of a condition on a property, and those of the same condition when it is negated,
where the condition excludes a value or does not. -/
inductive Negated (n : Namespaces) (property : String) (excludes : Bool) :
    Except CompileError (List Pattern) → Except CompileError (List Pattern) → Prop
  /-- Both fail for the same reason. -/
  | failure (e : CompileError) : Negated n property excludes (.error e) (.error e)
  /-- Everything is taken away at once. -/
  | whole (ps : List Pattern) : excludes = false →
      Negated n property excludes (.ok ps) (.ok [.minus ps])
  /-- What is found is taken away, and the exclusion of the value stays as it is. -/
  | apart (found : Pattern) (tail : List Path) (value : Term) : excludes = true →
      found.isMinus = false →
      Negated n property excludes (.ok [found, exclusion n property tail value])
        (.ok [.minus [found], exclusion n property tail value])

/-! ## Statements by a term -/

variable (s : Settings) (n : Namespaces) (c : Condition) (scope : Scope)

/-- One pattern stays one pattern, whether or not references are tested. -/
theorem withReferences_singleton (references : References) (statement : Variable) {link : Pattern}
    (hlink : link.isMinus = false) :
    ∃ found, found.isMinus = false ∧ withReferences n references statement [link] = [found] := by
  cases references with
  | regardless => exact ⟨link, hlink, rfl⟩
  | present => exact ⟨_, rfl, rfl⟩
  | absent => exact ⟨_, rfl, rfl⟩

/-- Negation concerns the first pattern, and not those that exclude the value. -/
theorem statementPatterns_negate (value : Term) (tail : List Path) :
    (∃ e, statementPatterns n { c with negate := false } scope value tail = .error e ∧
      statementPatterns n { c with negate := true } scope value tail = .error e) ∨
    ∃ found, found.isMinus = false ∧
      statementPatterns n { c with negate := false } scope value tail =
        .ok (found :: excludeValue n c value tail) ∧
      statementPatterns n { c with negate := true } scope value tail =
        .ok (.minus [found] :: excludeValue n c value tail) := by
  have hbuild : ∀ negate, statementPatterns n { c with negate } scope value tail =
      scope.index >>= fun i => statementObject n c scope.suffix i value tail >>= fun found =>
        .ok (negateIf negate (withReferences n c.references (.numbered "statement" i)
          [statementLink n c.property i found.2 found.1]) ++ excludeValue n c value tail) :=
    fun _ => rfl
  rw [hbuild, hbuild]
  cases scope.index with
  | error e => exact .inl ⟨e, rfl, rfl⟩
  | ok i =>
    simp only [bind, Except.bind]
    cases statementObject n c scope.suffix i value tail with
    | error e => exact .inl ⟨e, rfl, rfl⟩
    | ok object =>
      have hlink : (statementLink n c.property i object.2 object.1).isMinus = false := rfl
      obtain ⟨found, hfound, hone⟩ :=
        withReferences_singleton n c.references (.numbered "statement" i) hlink
      refine .inr ⟨found, hfound, ?_⟩
      simp only [hone]
      exact ⟨rfl, rfl⟩

variable {n c scope}

/-- Where nothing is excluded, everything is taken away at once. -/
theorem negated_statement {value : Term} {tail : List Path}
    (hx : c.excludesValue = decide (c.relation = .notMatching)) :
    Negated n c.property c.excludesValue
      (statementPatterns n { c with negate := false } scope value tail)
      (statementPatterns n { c with negate := true } scope value tail) := by
  rcases statementPatterns_negate n c scope value tail with
    ⟨e, hplain, hnegated⟩ | ⟨found, hfound, hplain, hnegated⟩
  · rw [hplain, hnegated]
    exact .failure e
  · rw [hplain, hnegated]
    cases hr : c.relation with
    | notMatching =>
      have hexclude : excludeValue n c value tail = [exclusion n c.property tail value] := by
        unfold excludeValue
        rw [hr]
        rfl
      rw [hexclude]
      exact .apart found tail value (by simp [hx, hr]) hfound
    | matching | regardless | lessThan | moreThan =>
      have hnone : excludeValue n c value tail = [] := by
        unfold excludeValue
        rw [hr]
      rw [hnone]
      exact .whole [found] (by simp [hx, hr])

/-! ## Texts, entities and existence

Which statement is built depends on the value and the relation, whether or not it is negated. -/

theorem textPatterns_negate (negate : Bool) :
    textPatterns s { c with negate } scope =
      match c.value with
      | .text text => statementPatterns s.namespaces { c with negate } scope
          (if c.datatype = .url then .iri ⟨text⟩ else .literal (.plain text)) []
      | value => .error (.unexpectedValue c.datatype "string" value.kind) := rfl

theorem entityPatterns_negate (negate : Bool) :
    entityPatterns s { c with negate } scope =
      match c.value, c.relation with
      | .entity id, _ => subclassTail s c >>= fun tail =>
          statementPatterns s.namespaces { c with negate } scope (s.namespaces.entity id) tail
      | _, .regardless =>
        statementPatterns s.namespaces { c with negate } scope (s.namespaces.entity "") []
      | value, _ => .error (.unexpectedValue c.datatype "entity reference" value.kind) := rfl

theorem existencePatterns_negate (negate : Bool) :
    existencePatterns s { c with negate } scope =
      match c.relation with
      | .lessThan | .moreThan => .error (.unsupportedRelation c.datatype c.relation)
      | .matching | .notMatching | .regardless =>
        statementPatterns s.namespaces { c with relation := .regardless, negate } scope
          (anyValueNode c.property scope.suffix) [] := rfl

theorem negated_text (hf : Family.ofDatatype c.datatype = .text) :
    Negated s.namespaces c.property c.excludesValue
      (textPatterns s { c with negate := false } scope)
      (textPatterns s { c with negate := true } scope) := by
  have hx : c.excludesValue = decide (c.relation = .notMatching) := by
    simp [Condition.excludesValue, hf]
  rw [textPatterns_negate, textPatterns_negate]
  split
  · exact negated_statement hx
  · exact .failure _

theorem negated_entity (hf : Family.ofDatatype c.datatype = .entity) :
    Negated s.namespaces c.property c.excludesValue
      (entityPatterns s { c with negate := false } scope)
      (entityPatterns s { c with negate := true } scope) := by
  have hx : c.excludesValue = decide (c.relation = .notMatching) := by
    simp [Condition.excludesValue, hf]
  rw [entityPatterns_negate, entityPatterns_negate]
  split
  · cases subclassTail s c with
    | error e => exact .failure e
    | ok tail => exact negated_statement hx
  · exact negated_statement hx
  · exact .failure _

theorem negated_existence (hf : Family.ofDatatype c.datatype = .existence) :
    Negated s.namespaces c.property c.excludesValue
      (existencePatterns s { c with negate := false } scope)
      (existencePatterns s { c with negate := true } scope) := by
  have hx : c.excludesValue = { c with relation := .regardless }.excludesValue := by
    simp [Condition.excludesValue, hf]
  rw [existencePatterns_negate, existencePatterns_negate, hx]
  split
  · exact .failure _
  · exact .failure _
  all_goals
    exact negated_statement (c := { c with relation := .regardless })
      (by simp [Condition.excludesValue])

/-! ## Quantities and points in time -/

theorem negated_quantity (hx : c.excludesValue = false) :
    Negated s.namespaces c.property c.excludesValue
      (quantityPatterns s { c with negate := false } scope)
      (quantityPatterns s { c with negate := true } scope) := by
  have hbuild : ∀ negate, quantityPatterns s { c with negate } scope =
      positiveQuantityPatterns s c scope >>= fun core => .ok (negateIf negate core) :=
    fun _ => rfl
  rw [hbuild, hbuild]
  cases positiveQuantityPatterns s c scope with
  | error e => exact .failure e
  | ok core => exact .whole core hx

theorem negated_time (hx : c.excludesValue = false) :
    Negated s.namespaces c.property c.excludesValue
      (timePatterns s { c with negate := false } scope)
      (timePatterns s { c with negate := true } scope) := by
  have hbuild : ∀ negate, timePatterns s { c with negate } scope =
      positiveTimePatterns s.namespaces c scope >>= fun found =>
        .ok (negateIf negate (withReferences s.namespaces c.references
          (.underscored "statement" found.1) found.2)) := fun _ => rfl
  rw [hbuild, hbuild]
  cases positiveTimePatterns s.namespaces c scope with
  | error e => exact .failure e
  | ok found => exact .whole _ hx

/-! ## All conditions -/

namespace Condition

/-- The patterns of a negated condition come from those of the condition. -/
theorem negated_patterns (s : Settings) (c : Condition) (scope : Scope) :
    Negated s.namespaces c.property c.excludesValue
      ({ c with negate := false }.patterns s scope) ({ c with negate := true }.patterns s scope) := by
  rw [patterns_eq, patterns_eq]
  cases hf : Family.ofDatatype c.datatype with
  | text => exact negated_text s hf
  | entity => exact negated_entity s hf
  | quantity => exact negated_quantity s (by simp [excludesValue, hf])
  | time => exact negated_time s (by simp [excludesValue, hf])
  | existence => exact negated_existence s hf

/-- **What negation takes away.**  A negated condition fails exactly where the condition itself does,
with the same error.  Otherwise all that the condition finds is taken away at once, except where it
excludes a value: then its patterns are one that finds statements and the exclusion of the value, and
only the first of them is taken away. -/
theorem patterns_negate (s : Settings) (c : Condition) (scope : Scope) :
    (∀ e, { c with negate := true }.patterns s scope = .error e ↔
      { c with negate := false }.patterns s scope = .error e) ∧
    ∀ ps, { c with negate := false }.patterns s scope = .ok ps →
      if c.excludesValue then
        ∃ found tail value, found.isMinus = false ∧
          ps = [found, exclusion s.namespaces c.property tail value] ∧
          { c with negate := true }.patterns s scope =
            .ok [.minus [found], exclusion s.namespaces c.property tail value]
      else { c with negate := true }.patterns s scope = .ok [.minus ps] := by
  have hnegated := negated_patterns s c scope
  generalize { c with negate := false }.patterns s scope = plain at hnegated ⊢
  generalize { c with negate := true }.patterns s scope = negated at hnegated ⊢
  cases hnegated with
  | failure e => exact ⟨fun _ => Iff.rfl, fun ps h => absurd h (by simp)⟩
  | whole ps hx =>
    refine ⟨fun e => by simp, fun ps' h => ?_⟩
    cases h
    rw [hx]
    rfl
  | apart found tail value hx hfound =>
    refine ⟨fun e => by simp, fun ps' h => ?_⟩
    cases h
    rw [hx]
    exact ⟨found, tail, value, hfound, rfl, rfl⟩

/-- Statements that have another text than "a" under `P1`. -/
def otherText (references : References) : Condition :=
  ⟨"P1", .string, .text "a", .notMatching, references, false, false, none⟩

/-- With references the statements form a group, and the group alone is taken away. -/
theorem patterns_negate_otherText :
    ∃ ps, { otherText .present with negate := false }.patterns {} ⟨some 0, ""⟩ = .ok ps ∧
      (if (otherText .present).excludesValue then
        ∃ found tail value, found.isMinus = false ∧
          ps = [found, exclusion {} "P1" tail value] ∧
          { otherText .present with negate := true }.patterns {} ⟨some 0, ""⟩ =
            .ok [.minus [found], exclusion {} "P1" tail value]
      else { otherText .present with negate := true }.patterns {} ⟨some 0, ""⟩ =
        .ok [.minus ps]) :=
  ⟨_, rfl, (patterns_negate {} (otherText .present) ⟨some 0, ""⟩).2 _ rfl⟩

/-- The exclusion of the text is not taken away with the statements. -/
theorem not_patterns_negate_otherText :
    ∃ ps, { otherText .regardless with negate := false }.patterns {} ⟨some 0, ""⟩ = .ok ps ∧
      { otherText .regardless with negate := true }.patterns {} ⟨some 0, ""⟩ ≠
        .ok [.minus ps] := by
  refine ⟨_, rfl, fun h => ?_⟩
  have hlength := congrArg List.length (Except.ok.inj h)
  exact absurd hlength (by decide)

end Condition

end WikibaseQuery

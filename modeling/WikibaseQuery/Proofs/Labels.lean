import WikibaseQuery.Proofs.Names

/-!
# The blank node of a condition

A condition on any value has a blank node in the place of the value, and no other condition has one.
This file says where it stands and what its label is, for every position of a query.

* `Condition.collect_labels`, `Condition.collect_labelledTriples` — the label and the triple that are
  read off the patterns of a condition, at any depth;
* `isRepeated_perm` — whether a property counts as repeated does not depend on the order of the
  conditions;
* `Query.blankNode_at` — the blank node of the condition at a position.
-/

namespace WikibaseQuery

/-! ## Blank nodes in patterns -/

/-- The labels of the blank nodes that stand in a pattern, apart from those in patterns within it. -/
def Pattern.labels (p : Pattern) : List String := p.terms.filterMap Term.label?

/-- The triples of a pattern that have a blank node. -/
def Pattern.labelledTriples : Pattern → List Triple
  | .triples ts => ts.filter fun t => t.terms.filterMap Term.label? ≠ []
  | _ => []

theorem Expression.filterMap_label_terms : (e : Expression) → e.isUnlabelled = true →
    e.terms.filterMap Term.label? = []
  | .term t, h => by
    rw [isUnlabelled_term, decide_eq_true_eq] at h
    rw [Expression.terms, List.filterMap_cons_none h, List.filterMap_nil]
  | .binary _ left right, h => by
    rw [isUnlabelled_binary, Bool.and_eq_true] at h
    rw [Expression.terms, List.filterMap_append, left.filterMap_label_terms h.1,
      right.filterMap_label_terms h.2, List.append_nil]
  | .existence _ _, _ => by rw [Expression.terms, List.filterMap_nil]

theorem seesBlankNodes_labels : SeesBlankNodes Pattern.labels where
  minus _ := rfl
  group _ := rfl
  bind _ value h := value.filterMap_label_terms h
  filter condition h := condition.filterMap_label_terms h
  triples ts h := by
    rw [Pattern.labels, Pattern.terms, List.filterMap_flatMap]
    exact h

theorem seesBlankNodes_labelledTriples : SeesBlankNodes Pattern.labelledTriples where
  minus _ := rfl
  group _ := rfl
  bind _ _ _ := rfl
  filter _ _ := rfl
  triples ts h := by
    have hnone : ∀ t ∈ ts, t.terms.filterMap Term.label? = [] := List.flatMap_eq_nil_iff.1 h
    refine List.filter_eq_nil_iff.2 fun t ht => ?_
    simp [hnone t ht]

/-! ## Conditions -/

namespace Condition

variable {s : Settings} {c : Condition} {scope : Scope} {i : Nat} {ps : List Pattern}

/-- Conditions with a blank node are those on unsupported datatypes, and those on any text or any
entity. -/
theorem hasBlankNode_iff :
    c.hasBlankNode = true ↔
      c.datatype.isSupported = false ∨
        c.relation = .regardless ∧
          (Family.ofDatatype c.datatype = .text ∨ Family.ofDatatype c.datatype = .entity) := by
  unfold hasBlankNode usesAnyValue
  cases c.datatype <;> simp [Datatype.isSupported, Family.ofDatatype]

/-- **The label of a condition** is that of its property and its suffix. -/
theorem collect_labels (h : c.patterns s scope = .ok ps) :
    collect Pattern.labels ps =
      if c.hasBlankNode then [anyValueLabel c.property scope.suffix] else [] := by
  rcases seesBlankNodes_labels.collect_condition h with ⟨hblank, i, -, hps⟩ | ⟨hblank, hps⟩
  · rw [hps, if_pos hblank]
    rfl
  · rw [hps, hblank]
    rfl

/-- **The triple with the blank node of a condition** leads from the statement to its value. -/
theorem collect_labelledTriples (hi : scope.position = some i) (h : c.patterns s scope = .ok ps) :
    collect Pattern.labelledTriples ps =
      if c.hasBlankNode then
        [⟨Variable.numbered "statement" i, .sequence [s.namespaces.statement c.property],
          .blank (anyValueLabel c.property scope.suffix)⟩]
      else [] := by
  rcases seesBlankNodes_labelledTriples.collect_condition h with
    ⟨hblank, j, hj, hps⟩ | ⟨hblank, hps⟩
  · obtain rfl : i = j := Option.some.inj (hi.symm.trans hj)
    rw [hps, if_pos hblank]
    rfl
  · rw [hps, hblank]
    rfl

end Condition

/-! ## Suffixes -/

/-- Whether a property counts as repeated does not depend on the order of the conditions. -/
theorem isRepeated_perm {cs ds : List Condition} (h : cs.Perm ds) (property : String) :
    isRepeated cs property = isRepeated ds property := by
  rw [isRepeated, isRepeated, h.countP_eq]

/-- What makes a property count as repeated. -/
theorem isRepeated_iff {cs : List Condition} {property : String} :
    isRepeated cs property = true ↔
      2 ≤ cs.countP fun d => d.property = property ∧ d.references = .regardless ∧
        (d.relation = .regardless ∨ d.datatype.isSupported = false) := by
  -- both test the same, one by `Bool`s and the other by propositions in another order
  have hcounts : ∀ d ∈ cs, d.countsAsRepeat property = true ↔
      decide (d.property = property ∧ d.references = .regardless ∧
        (d.relation = .regardless ∨ d.datatype.isSupported = false)) = true := by
    intro d _
    simp only [Condition.countsAsRepeat, Condition.usesAnyValue, Bool.and_eq_true, Bool.or_eq_true,
      Bool.not_eq_true', decide_eq_true_eq]
    tauto
  rw [isRepeated, decide_eq_true_eq, List.countP_congr hcounts]
  exact Iff.rfl

/-- A repeated property has the position as its suffix. -/
theorem anyValueLabel_scope (cs : List Condition) (c : Condition) (i : Nat) :
    anyValueLabel c.property (c.scope cs i).suffix =
      if isRepeated cs c.property then "anyValue" ++ c.property ++ "_" ++ toString i
      else "anyValue" ++ c.property := by
  unfold anyValueLabel Condition.scope
  cases isRepeated cs c.property <;> simp

/-- Whether a condition has a suffix does not depend on the order of the conditions. -/
theorem suffix_scope_perm {cs ds : List Condition} (h : cs.Perm ds) (c : Condition) (i j : Nat) :
    (c.scope cs i).suffix = "" ↔ (c.scope ds j).suffix = "" := by
  unfold Condition.scope
  rw [isRepeated_perm h]
  cases isRepeated ds c.property <;> simp

/-! ## Queries -/

namespace Query

/-- Every condition of a compiled query is built in the scope of its position. -/
theorem patterns_of_compile {s : Settings} {q : Query} {answer : SelectQuery}
    (h : q.compile s = .ok answer) {c : Condition} {i : Nat} (hc : q.conditions[i]? = some c) :
    ∃ ps, c.patterns s (c.scope q.conditions i) = .ok ps := by
  obtain ⟨items, hitems, -⟩ := compile_eq_ok.1 h
  obtain ⟨built, hbuilt, -⟩ := compileItems_eq_ok.1 hitems
  exact ⟨_, hbuilt (c, i) (List.mem_zipIdx_iff_getElem?.2 hc)⟩

/-- **The blank node of a condition.**  The condition at a position of a compiled query has a blank
node exactly if its datatype is unsupported, or if it is on any text or any entity.  Then it has just
one, as the value of the statement.  The label is made of the property, and of the position where at
least two conditions of the query have that property, any value, and no constraint on references;
whether they do does not depend on the order of the conditions. -/
theorem blankNode_at {s : Settings} {q : Query} {answer : SelectQuery}
    (h : q.compile s = .ok answer) {c : Condition} {i : Nat} (hc : q.conditions[i]? = some c) :
    ∃ ps, c.patterns s (c.scope q.conditions i) = .ok ps ∧
      (collect Pattern.labels ps ≠ [] ↔
        c.datatype.isSupported = false ∨
          c.relation = .regardless ∧
            (Family.ofDatatype c.datatype = .text ∨ Family.ofDatatype c.datatype = .entity)) ∧
      (collect Pattern.labels ps ≠ [] →
        let label :=
          if 2 ≤ q.conditions.countP fun d =>
              d.property = c.property ∧ d.references = .regardless ∧
                (d.relation = .regardless ∨ d.datatype.isSupported = false) then
            "anyValue" ++ c.property ++ "_" ++ toString i
          else "anyValue" ++ c.property
        collect Pattern.labels ps = [label] ∧
          collect Pattern.labelledTriples ps =
            [⟨Variable.numbered "statement" i, .sequence [s.namespaces.statement c.property],
              .blank label⟩]) ∧
      ∀ cs, cs.Perm q.conditions → ∀ j,
        ((c.scope cs j).suffix = "" ↔ (c.scope q.conditions i).suffix = "") := by
  obtain ⟨ps, hps⟩ := patterns_of_compile h hc
  have hlabels := Condition.collect_labels hps
  have htriples := Condition.collect_labelledTriples (i := i) rfl hps
  rw [anyValueLabel_scope] at hlabels htriples
  have hsome : collect Pattern.labels ps ≠ [] ↔ c.hasBlankNode = true := by
    rw [hlabels]
    cases c.hasBlankNode <;> simp
  refine ⟨ps, hps, hsome.trans Condition.hasBlankNode_iff, fun hne => ?_,
    fun cs hperm j => suffix_scope_perm hperm c j i⟩
  rw [if_pos (hsome.1 hne)] at hlabels htriples
  simp only [← isRepeated_iff]
  exact ⟨hlabels, htriples⟩

/-- The second of two conditions on any value of one property has its position in its label. -/
theorem blankNode_at_twoAnyValues :
    ∃ answer, (twoAnyValues .regardless).compile {} = .ok answer ∧
      ∃ c, (twoAnyValues .regardless).conditions[1]? = some c ∧
        ∃ ps, c.patterns {} (c.scope (twoAnyValues .regardless).conditions 1) = .ok ps ∧
          collect Pattern.labels ps ≠ [] ∧ collect Pattern.labels ps = ["anyValueP31_1"] := by
  refine ⟨_, rfl, _, rfl, ?_⟩
  obtain ⟨ps, hps, hsome, hlabel, -⟩ :=
    blankNode_at (s := {}) (q := twoAnyValues .regardless) (i := 1) rfl rfl
  have hne : collect Pattern.labels ps ≠ [] := hsome.2 (.inr (by decide))
  exact ⟨ps, hps, hne, (hlabel hne).1⟩

end Query

end WikibaseQuery

import WikibaseQuery.Proofs.Positions

/-!
# Conditions keep their variables to themselves

Two conditions of one query are joined by the item that they are both about, and must be joined by
nothing else.  What a condition calls by a name of its own ends in its position, whatever its
property is called.  The variable for references is shared, but it stands only in tests for
existence, where it means nothing outside.

* `Condition.variables_generated` — apart from the item and the reference, a condition has only
  variables that it made up;
* `Condition.reference_hidden` — the reference does not stand outside of tests for existence;
* `Query.variables_apart` — two conditions of a query share the item and the reference at most.
-/

namespace WikibaseQuery

/-! ## Variables that a condition makes up -/

/-- The variables that a condition at a position makes up: a fixed word and the position, with an
underscore between them or without, and for an instant the property and the position. -/
inductive Condition.Generates (c : Condition) (i : Nat) : Variable → Prop
  | numbered {word : String} : IsWord word → Generates c i (.numbered word i)
  | underscored {word : String} : IsWord word → Generates c i (.underscored word i)
  | instant : c.datatype = .time → Generates c i (.underscored c.property i)

section

variable {s : Settings} {n : Namespaces} {c : Condition} {scope : Scope} {i : Nat} {v : Variable}
  {ps qs : List Pattern}

/-- The position stands at the end of what is made up. -/
theorem Condition.Generates.at (h : c.Generates i v) : v.At i := by
  cases h with
  | numbered hword => exact Variable.at_numbered hword
  | underscored _ => exact Variable.at_underscored _
  | instant _ => exact Variable.at_underscored _

/-- Every variable is that of the item, that of a reference or one that the condition made up. -/
def generatedRules (c : Condition) (i : Nat) : Rules where
  var v := v = .item ∨ v = .reference ∨ c.Generates i v

theorem generatedRules_admits (c : Condition) (suffix : String) (i : Nat) :
    (generatedRules c i).Admits c suffix i where
  item := .inl rfl
  reference := .inr (.inl rfl)
  numbered _ h := .inr (.inr (.numbered h))
  underscored _ h := .inr (.inr (.underscored h))
  property h := .inr (.inr (.instant h))
  label _ := trivial
  iri _ := trivial
  operand _ _ := trivial
  path _ _ _ := trivial
  block _ _ := trivial
  body _ _ := trivial
  ungrouped _ _ := trivial

/-- **The variables of a condition**, apart from the item and the reference, are those that it made
up. -/
theorem Condition.variables_generated (hi : scope.position = some i)
    (h : c.patterns s scope = .ok ps) (hv : .var v ∈ collect Pattern.terms ps) :
    v = .item ∨ v = .reference ∨ c.Generates i v :=
  var_of_obeyIn ps (Condition.flat_patterns (generatedRules_admits c _ i) hi h).1 hv

/-! ## Outside of tests for existence -/

mutual

/-- The pattern, and all patterns within it but those whose existence is tested. -/
def Pattern.exposed : Pattern → List Pattern
  | .triples triples => [.triples triples]
  | .bind target value => [.bind target value]
  | .filter condition => [.filter condition]
  | .union arms => .union arms :: exposedIn arms
  | .minus patterns => .minus patterns :: exposedIn patterns
  | .group patterns => .group patterns :: exposedIn patterns
  | .service endpoint silent patterns => .service endpoint silent patterns :: exposedIn patterns
  | .subquery distinct projection patterns limit =>
    .subquery distinct projection patterns limit :: exposedIn patterns

/-- The patterns, each with all patterns within it but those whose existence is tested. -/
def exposedIn : List Pattern → List Pattern
  | [] => []
  | p :: ps => p.exposed ++ exposedIn ps

end

/-- The terms that stand in the patterns outside of tests for existence. -/
def exposedTerms (ps : List Pattern) : List Term := (exposedIn ps).flatMap Pattern.terms

/-- The variable for references stands nowhere outside of tests for existence. -/
def HidesReference (ps : List Pattern) : Prop := .var .reference ∉ exposedTerms ps

theorem exposedIn_append (ps qs : List Pattern) :
    exposedIn (ps ++ qs) = exposedIn ps ++ exposedIn qs := by
  induction ps with
  | nil => rfl
  | cons p ps ih => rw [List.cons_append, exposedIn, exposedIn, ih, List.append_assoc]

/-! ### Patterns one after another -/

/-- The first pattern hides the reference if it does not have it, and those within it hide it. -/
theorem hidesReference_first {p : Pattern} (within : List Pattern)
    (h : p.exposed = p :: within) :
    HidesReference (p :: qs) ↔
      .var .reference ∉ p.terms ∧ .var .reference ∉ within.flatMap Pattern.terms ∧
        HidesReference qs := by
  simp only [HidesReference, exposedTerms, exposedIn, h, List.flatMap_append, List.flatMap_cons,
    List.mem_append, not_or, and_assoc]

@[simp] theorem hidesReference_nil : HidesReference [] := List.not_mem_nil

@[simp] theorem hidesReference_append :
    HidesReference (ps ++ qs) ↔ HidesReference ps ∧ HidesReference qs := by
  simp only [HidesReference, exposedTerms, exposedIn_append, List.flatMap_append, List.mem_append,
    not_or]

@[simp] theorem hidesReference_triples (ts : List Triple) :
    HidesReference (.triples ts :: qs) ↔
      (∀ t ∈ ts, t.subject ≠ .var .reference ∧ t.object ≠ .var .reference) ∧
        HidesReference qs := by
  rw [hidesReference_first [] (by rw [Pattern.exposed])]
  simp [Pattern.terms, Triple.terms, eq_comm]

@[simp] theorem hidesReference_bind (target : Variable) (value : Expression) :
    HidesReference (.bind target value :: qs) ↔
      target ≠ .reference ∧ .var .reference ∉ value.terms ∧ HidesReference qs := by
  rw [hidesReference_first [] (by rw [Pattern.exposed])]
  simp [Pattern.terms, eq_comm, and_assoc]

@[simp] theorem hidesReference_filter (condition : Expression) :
    HidesReference (.filter condition :: qs) ↔
      .var .reference ∉ condition.terms ∧ HidesReference qs := by
  rw [hidesReference_first [] (by rw [Pattern.exposed])]
  simp [Pattern.terms]

@[simp] theorem hidesReference_minus :
    HidesReference (.minus ps :: qs) ↔ HidesReference ps ∧ HidesReference qs := by
  rw [hidesReference_first (exposedIn ps) (by rw [Pattern.exposed])]
  simp [Pattern.terms, HidesReference, exposedTerms]

@[simp] theorem hidesReference_group :
    HidesReference (.group ps :: qs) ↔ HidesReference ps ∧ HidesReference qs := by
  rw [hidesReference_first (exposedIn ps) (by rw [Pattern.exposed])]
  simp [Pattern.terms, HidesReference, exposedTerms]

@[simp] theorem hidesReference_union (arms : List Pattern) :
    HidesReference (.union arms :: qs) ↔ HidesReference arms ∧ HidesReference qs := by
  rw [hidesReference_first (exposedIn arms) (by rw [Pattern.exposed])]
  simp [Pattern.terms, HidesReference, exposedTerms]

@[simp] theorem hidesReference_service (endpoint : Iri) (silent : Bool) :
    HidesReference (.service endpoint silent ps :: qs) ↔
      HidesReference ps ∧ HidesReference qs := by
  rw [hidesReference_first (exposedIn ps) (by rw [Pattern.exposed])]
  simp [Pattern.terms, HidesReference, exposedTerms]

@[simp] theorem hidesReference_toPattern (answer : SelectQuery) :
    HidesReference (answer.toPattern :: qs) ↔
      .reference ∉ answer.projection ∧ HidesReference answer.patterns ∧ HidesReference qs := by
  rw [hidesReference_first (exposedIn answer.patterns)
    (by rw [SelectQuery.toPattern, Pattern.exposed])]
  simp [SelectQuery.toPattern, Pattern.terms, HidesReference, exposedTerms]

theorem hidesReference_flatMap {α : Type} (as : List α) (patterns : α → List Pattern) :
    HidesReference (as.flatMap patterns) ↔ ∀ a ∈ as, HidesReference (patterns a) := by
  induction as with
  | nil => simp
  | cons a as ih => rw [List.flatMap_cons, hidesReference_append, ih, List.forall_mem_cons]

/-! ### Names that end in a position -/

/-- A name that ends in a position is not the one of the reference. -/
theorem Variable.ne_reference_of_at (h : v.At i) : v ≠ .reference := by
  rintro rfl
  exact Variable.not_at_reference h

@[simp] theorem item_ne_reference : Variable.item ≠ .reference := by decide

@[simp] theorem underscored_ne_reference (word : String) (i : Nat) :
    Variable.underscored word i ≠ .reference :=
  Variable.ne_reference_of_at (Variable.at_underscored word)

theorem numbered_ne_reference {word : String} (h : IsWord word) (i : Nat) :
    Variable.numbered word i ≠ .reference :=
  Variable.ne_reference_of_at (Variable.at_numbered h)

/-! ### Conditions -/

theorem hidesReference_negateIf (negate : Bool) :
    HidesReference (negateIf negate ps) ↔ HidesReference ps := by
  cases negate <;> simp [negateIf]

/-- A test for references has them inside of it only. -/
theorem hidesReference_referenceFilter (n : Namespaces) (references : References)
    (statement : Variable) : HidesReference (referenceFilter n references statement) := by
  cases references <;> simp [referenceFilter, Expression.terms]

theorem hidesReference_withReferences (n : Namespaces) (references : References)
    (statement : Variable) :
    HidesReference (withReferences n references statement ps) ↔ HidesReference ps := by
  have hfilter := hidesReference_referenceFilter n references statement
  unfold withReferences
  split
  · rfl
  · simp [hfilter]

theorem hidesReference_amountFilter (relation : Relation) {amount : Variable} {other : Term}
    (hamount : amount ≠ .reference) (hother : other ≠ .var .reference) :
    HidesReference (amountFilter relation amount other) := by
  cases relation <;>
    simp [amountFilter, Relation.comparison, Pattern.comparison, Expression.terms, hamount.symm,
      hother.symm]

theorem ne_reference_of_isConstant {t : Term} (h : t.isConstant = true) :
    t ≠ .var .reference := by
  rintro rfl
  exact absurd h (by decide)

theorem hidesReference_statement {suffix : String} {relation : Relation} {value : Term}
    {tail : List Path} (kind : StatementKind s c suffix relation value tail)
    (h : statementPatterns n { c with relation } scope value tail = .ok ps) :
    HidesReference ps := by
  obtain ⟨i, object, path, -, hobject, rfl⟩ := statementPatterns_eq_ok.1 h
  have hstatement : Variable.numbered "statement" i ≠ .reference :=
    numbered_ne_reference (by decide) i
  have hinstance : Variable.numbered "instance" i ≠ .reference :=
    numbered_ne_reference (by decide) i
  by_cases hr : relation = .regardless
  · subst hr
    cases hobject
    simp [hidesReference_negateIf, hidesReference_withReferences, statementLink, claimTriple,
      anyValueNode, excludeValue, hstatement]
  · have hvalue := ne_reference_of_isConstant (kind.isConstant hr)
    have hobject : object ≠ .var .reference := by
      rcases statementObject_cases hobject hr with rfl | rfl
      · exact hvalue
      · simpa using hinstance
    have hexclude : HidesReference (excludeValue n { c with relation } value tail) := by
      unfold excludeValue
      split <;> simp [Pattern.triple, hvalue]
    simp [hidesReference_negateIf, hidesReference_withReferences, statementLink, claimTriple,
      hexclude, hobject, hstatement]

theorem QuantityCore.hidesReference {core : List Pattern} (h : QuantityCore s c i core) :
    HidesReference core := by
  have hword : ∀ word, IsWord word → Variable.numbered word i ≠ .reference :=
    fun word hword => numbered_ne_reference hword i
  have hreferences := hidesReference_referenceFilter s.namespaces c.references
    (.numbered "statement" i)
  cases h with
  | anyAmount _ => simp +decide [plainAmountPatterns, claimTriple, hword, hreferences]
  | @plain amount _ _ =>
    have hfilter := hidesReference_amountFilter c.relation
      (hword "numericQuantity" (by decide))
      (ne_reference_of_isConstant (rfl : (Term.literal (.ofAmount amount)).isConstant = true))
    simp +decide [plainAmountPatterns, claimTriple, hword, hreferences, hfilter]
  | converted _ _ _ =>
    have hproduct : Term.var (.numbered "coherentUserQuantity" i) ≠ .var .reference := by
      simpa using hword "coherentUserQuantity" (by decide)
    have hfilter := hidesReference_amountFilter c.relation
      (hword "statementQuantity" (by decide)) hproduct
    simp +decide [convertedAmountPatterns, claimTriple, Expression.terms, hword, hreferences,
      hfilter, eq_comm (a := Variable.reference)]

theorem TimeCore.hidesReference {core : List Pattern} (h : TimeCore n c i core) :
    HidesReference core := by
  cases h with
  | anyInstant _ =>
    simp [statementValuePatterns, instantPattern, claimTriple, Pattern.triple]
  | day _ _ hpattern =>
    rcases dayPattern_cases hpattern with rfl | ⟨operator, rfl⟩ <;>
      simp [statementValuePatterns, instantPattern, claimTriple, Pattern.triple,
        Pattern.comparison, Expression.terms, eq_comm (a := Variable.reference)]
  | interval _ _ _ hpattern =>
    rcases intervalPattern_cases hpattern with ⟨before, operator, after, rfl⟩ | rfl | rfl <;>
      simp [statementValuePatterns, precisionPatterns, instantPattern, rangeHint, claimTriple,
        Pattern.triple, Pattern.comparison, Expression.terms, eq_comm (a := Variable.reference)]

/-- **The reference of a condition** does not stand outside of tests for existence. -/
theorem Condition.reference_hidden (h : c.patterns s scope = .ok ps) : HidesReference ps := by
  rcases Condition.patterns_cases h with
    ⟨relation, value, tail, kind, hps⟩ | ⟨-, hps⟩ | ⟨-, hps⟩
  · exact hidesReference_statement kind hps
  · obtain ⟨i, core, -, hcore, rfl⟩ := quantityPatterns_eq_ok.1 hps
    exact (hidesReference_negateIf _).2 hcore.hidesReference
  · obtain ⟨i, core, -, hcore, rfl⟩ := timePatterns_eq_ok.1 hps
    rw [hidesReference_negateIf, hidesReference_withReferences]
    exact hcore.hidesReference

end

/-! ## Queries -/

namespace Query

variable {s : Settings} {q : Query} {built : Condition × Nat → List Pattern}
  {answer : SelectQuery}

theorem hidesReference_elementPatterns (e : Element (Condition × Nat)) :
    HidesReference (e.map built).patterns ↔ ∀ m ∈ e.members, HidesReference (built m) := by
  cases e with
  | single m => exact (List.forall_mem_singleton (p := fun m => HidesReference (built m))).symm
  | group ms =>
    have harms : HidesReference (ms.map fun m => .group (built m)) ↔
        ∀ m ∈ ms, HidesReference (built m) := by
      induction ms with
      | nil => simp
      | cons m ms ih => rw [List.map_cons, hidesReference_group, ih, List.forall_mem_cons]
    rw [Element.map, Element.patterns, hidesReference_union, List.map_map,
      and_iff_left hidesReference_nil]
    exact harms

theorem hidesReference_body (h : q.Builds s built) : HidesReference (q.body built) := by
  rw [body, hidesReference_flatMap]
  intro e he
  rw [hidesReference_elementPatterns]
  intro m hm
  exact Condition.reference_hidden (h m (mem_zipIdx_of_mem_tree he hm))

/-- The frame around the conditions says nothing of references. -/
theorem hidesReference_compile (h : q.compile s = .ok answer) :
    HidesReference [answer.toPattern] := by
  obtain ⟨items, hitems, rfl⟩ := compile_eq_ok.1 h
  obtain ⟨built, hbuilt, rfl⟩ := compileItems_eq_ok.1 hitems
  have hbody := hidesReference_body hbuilt
  have hany : HidesReference (withAnyItem s.namespaces (q.body built)) := by
    unfold withAnyItem
    split
    · simp [anyItem, Pattern.triple, hbody]
    · exact hbody
  have hitem : Variable.reference ≠ .item := by decide
  have hlabel : Variable.reference ≠ ⟨"itemLabel"⟩ := by decide
  split
  · simp [hany, hitem]
  · simp [withLabels, labelLanguagePattern, Pattern.triple, hany, hitem, hlabel]

/-- **Conditions share nothing but the item.**  The patterns of two conditions of a query have the
item and the reference in common at most.  Every other variable of a condition was made up for it,
and what is made up is never called `item`; and outside of tests for existence the query speaks of
no reference. -/
theorem variables_apart (h : q.compile s = .ok answer) :
    ∃ built : Condition × Nat → List Pattern,
      (∀ m ∈ q.conditions.zipIdx,
        m.1.patterns s (m.1.scope q.conditions m.2) = .ok (built m)) ∧
      (∀ m ∈ q.conditions.zipIdx, ∀ m' ∈ q.conditions.zipIdx, m.2 ≠ m'.2 →
        ∀ v, .var v ∈ collect Pattern.terms (built m) →
          .var v ∈ collect Pattern.terms (built m') → v = .item ∨ v = .reference) ∧
      (∀ m ∈ q.conditions.zipIdx,
        (∀ v, .var v ∈ collect Pattern.terms (built m) →
          v = .item ∨ v = .reference ∨ m.1.Generates m.2 v) ∧
        ¬ m.1.Generates m.2 .item ∧ HidesReference (built m)) ∧
      HidesReference [answer.toPattern] := by
  obtain ⟨items, hitems, -⟩ := compile_eq_ok.1 h
  obtain ⟨built, hbuilt, -⟩ := compileItems_eq_ok.1 hitems
  have hown : ∀ m ∈ q.conditions.zipIdx, ∀ v, .var v ∈ collect Pattern.terms (built m) →
      v = .item ∨ v = .reference ∨ m.1.Generates m.2 v :=
    fun m hm v hv => Condition.variables_generated rfl (hbuilt m hm) hv
  refine ⟨built, hbuilt, ?_, fun m hm => ⟨hown m hm, ?_, ?_⟩, hidesReference_compile h⟩
  · intro m hm m' hm' hne v hv hv'
    rcases hown m hm v hv with hitem | hreference | hat
    · exact .inl hitem
    · exact .inr hreference
    · rcases hown m' hm' v hv' with hitem | hreference | hat'
      · exact .inl hitem
      · exact .inr hreference
      · -- the position can be read off the variable
        exact absurd (hat.at.unique hat'.at) hne
  · exact fun hitem => Variable.not_at_item hitem.at
  · exact Condition.reference_hidden (hbuilt m hm)

/-- Two points in time with references or without, whose properties are called as variables are. -/
def namesakes : Query where
  conditions :=
    [ ⟨"statement", .time, .text "", .regardless, .present, false, false, none⟩,
      ⟨"statement_0", .time, .text "", .regardless, .absent, false, false, some .or⟩ ]
  limit := none
  omitLabels := false

/-- The instants of the second one are called `statement_0_1`. -/
theorem variables_apart_namesakes :
    ∃ answer, namesakes.compile {} = .ok answer ∧ HidesReference [answer.toPattern] ∧
      ∃ built, namesakes.Builds {} built ∧
        ∀ m ∈ namesakes.conditions.zipIdx, ∀ m' ∈ namesakes.conditions.zipIdx, m.2 ≠ m'.2 →
          ∀ v, .var v ∈ collect Pattern.terms (built m) →
            .var v ∈ collect Pattern.terms (built m') → v = .item ∨ v = .reference := by
  obtain ⟨answer, hanswer⟩ : ∃ answer, namesakes.compile {} = .ok answer := ⟨_, rfl⟩
  obtain ⟨built, hbuilt, hapart, -, hhides⟩ := variables_apart hanswer
  exact ⟨answer, hanswer, hhides, built, hbuilt, hapart⟩

end Query

end WikibaseQuery

import WikibaseQuery.Proofs.Assembly

/-!
# Patterns at any depth

Patterns stand inside groups, unions and subqueries, inside what is taken away, and inside tests for
existence.  `nestedIn` lists all of them from the front, and `collect` collects what a function reads
off each.

* `collect_negateIf`, `collect_withReferences` — negation and references move patterns deeper, and
  nothing else;
* `collect_statement`, `collect_quantity`, `collect_time` — what is read off a condition is read off
  its patterns before references and negation, and off the test for references;
* `SeesBlankNodes.collect_condition` — what looks for blank nodes finds the one for any value, or nothing;
* `Query.collect_body`, `Query.collect_compile` — what is read off a compiled query is read off its
  conditions one after the other, apart from the frame around them.
-/

namespace WikibaseQuery

/-! ## The patterns within patterns -/

mutual

/-- The patterns whose existence an expression tests, and all within them. -/
def Expression.nested : Expression → List Pattern
  | .term _ => []
  | .binary _ left right => left.nested ++ right.nested
  | .existence _ patterns => nestedIn patterns

/-- The pattern, and all patterns within it. -/
def Pattern.nested : Pattern → List Pattern
  | .triples triples => [.triples triples]
  | .bind target value => .bind target value :: value.nested
  | .filter condition => .filter condition :: condition.nested
  | .union arms => .union arms :: nestedIn arms
  | .minus patterns => .minus patterns :: nestedIn patterns
  | .group patterns => .group patterns :: nestedIn patterns
  | .service endpoint silent patterns => .service endpoint silent patterns :: nestedIn patterns
  | .subquery distinct projection patterns limit =>
    .subquery distinct projection patterns limit :: nestedIn patterns

/-- The patterns, each with all patterns within it. -/
def nestedIn : List Pattern → List Pattern
  | [] => []
  | p :: ps => p.nested ++ nestedIn ps

end

theorem nestedIn_append (ps qs : List Pattern) :
    nestedIn (ps ++ qs) = nestedIn ps ++ nestedIn qs := by
  induction ps with
  | nil => rfl
  | cons p ps ih => rw [List.cons_append, nestedIn, nestedIn, ih, List.append_assoc]

/-! ## What is read off them -/

variable {β : Type}

/-- What a function reads off the patterns and all within them. -/
def collect (f : Pattern → List β) (ps : List Pattern) : List β := (nestedIn ps).flatMap f

section

variable (f : Pattern → List β)

@[simp] theorem collect_nil : collect f [] = [] := rfl

@[simp] theorem collect_append (ps qs : List Pattern) :
    collect f (ps ++ qs) = collect f ps ++ collect f qs := by
  rw [collect, nestedIn_append, List.flatMap_append]
  rfl

theorem collect_flatMap {α : Type} (as : List α) (patterns : α → List Pattern) :
    collect f (as.flatMap patterns) = as.flatMap fun a => collect f (patterns a) := by
  induction as with
  | nil => rfl
  | cons a as ih => rw [List.flatMap_cons, List.flatMap_cons, collect_append, ih]

/-! ### The first pattern -/

section

variable (ps qs : List Pattern)

/-- The first pattern shows what is read off it, and then what is read off those within it. -/
theorem collect_first {p : Pattern} {within : List Pattern} (h : p.nested = p :: within) :
    collect f (p :: qs) = f p ++ (within.flatMap f ++ collect f qs) := by
  rw [collect, nestedIn, List.flatMap_append, h, List.flatMap_cons, List.append_assoc]
  rfl

@[simp] theorem collect_triples (triples : List Triple) :
    collect f (.triples triples :: qs) = f (.triples triples) ++ collect f qs := by
  have hnested : (Pattern.triples triples).nested = [.triples triples] := rfl
  exact collect_first f qs hnested

@[simp] theorem collect_minus :
    collect f (.minus ps :: qs) = f (.minus ps) ++ (collect f ps ++ collect f qs) :=
  collect_first f qs rfl

@[simp] theorem collect_group :
    collect f (.group ps :: qs) = f (.group ps) ++ (collect f ps ++ collect f qs) :=
  collect_first f qs rfl

@[simp] theorem collect_union (arms : List Pattern) :
    collect f (.union arms :: qs) = f (.union arms) ++ (collect f arms ++ collect f qs) :=
  collect_first f qs rfl

@[simp] theorem collect_service (endpoint : Iri) (silent : Bool) :
    collect f (.service endpoint silent ps :: qs) =
      f (.service endpoint silent ps) ++ (collect f ps ++ collect f qs) :=
  collect_first f qs rfl

@[simp] theorem collect_toPattern (q : SelectQuery) :
    collect f (q.toPattern :: qs) =
      f q.toPattern ++ (collect f q.patterns ++ collect f qs) :=
  collect_first f qs rfl

@[simp] theorem collect_bind (target : Variable) (value : Expression) :
    collect f (.bind target value :: qs) =
      f (.bind target value) ++ (value.nested.flatMap f ++ collect f qs) :=
  collect_first f qs rfl

@[simp] theorem collect_filter (condition : Expression) :
    collect f (.filter condition :: qs) =
      f (.filter condition) ++ (condition.nested.flatMap f ++ collect f qs) :=
  collect_first f qs rfl

end

@[simp] theorem nested_term (t : Term) : (Expression.term t).nested = [] := by
  rw [Expression.nested]

@[simp] theorem nested_binary (operator : Operator) (left right : Expression) :
    (Expression.binary operator left right).nested = left.nested ++ right.nested := by
  rw [Expression.nested]

@[simp] theorem flatMap_nested_existence (negated : Bool) (ps : List Pattern) :
    (Expression.existence negated ps).nested.flatMap f = collect f ps := by
  rw [Expression.nested]
  rfl

end

/-! ## Conditions -/

/-- Nothing is read off the patterns that only hold others together. -/
structure SeesThrough (f : Pattern → List β) : Prop where
  minus : ∀ ps, f (.minus ps) = []
  group : ∀ ps, f (.group ps) = []

section

variable {f : Pattern → List β} {s : Settings} {n : Namespaces} {c : Condition} {scope : Scope}
  {ps : List Pattern}

theorem collect_negateIf (hf : SeesThrough f) (negate : Bool) (ps : List Pattern) :
    collect f (negateIf negate ps) = collect f ps := by
  cases negate with
  | false => rfl
  | true => simp [negateIf, hf.minus]

theorem collect_withReferences (hf : SeesThrough f) (n : Namespaces) (references : References)
    (statement : Variable) (ps : List Pattern) :
    collect f (withReferences n references statement ps) =
      collect f ps ++ collect f (referenceFilter n references statement) := by
  unfold withReferences
  split
  · rename_i hnone
    rw [hnone, collect_nil, List.append_nil]
  · rw [collect_group, hf.group, List.nil_append, collect_nil, List.append_nil, collect_append]

theorem collect_statement (hf : SeesThrough f) {value : Term} {tail : List Path}
    (h : statementPatterns n c scope value tail = .ok ps) :
    ∃ i object path, scope.position = some i ∧
      statementObject n c scope.suffix i value tail = .ok (object, path) ∧
      collect f ps = collect f ([statementLink n c.property i path object] ++
        referenceFilter n c.references (.numbered "statement" i) ++
          excludeValue n c value tail) := by
  obtain ⟨i, object, path, hi, hobject, rfl⟩ := statementPatterns_eq_ok.1 h
  refine ⟨i, object, path, hi, hobject, ?_⟩
  rw [collect_append, collect_negateIf hf, collect_withReferences hf, ← collect_append,
    ← collect_append]

theorem collect_quantity (hf : SeesThrough f) (h : quantityPatterns s c scope = .ok ps) :
    ∃ i core, scope.position = some i ∧ QuantityCore s c i core ∧
      collect f ps = collect f core := by
  obtain ⟨i, core, hi, hcore, rfl⟩ := quantityPatterns_eq_ok.1 h
  exact ⟨i, core, hi, hcore, collect_negateIf hf _ _⟩

theorem collect_time (hf : SeesThrough f) (h : timePatterns s c scope = .ok ps) :
    ∃ i core, scope.position = some i ∧ TimeCore s.namespaces c i core ∧
      collect f ps = collect f (core ++
        referenceFilter s.namespaces c.references (.underscored "statement" i)) := by
  obtain ⟨i, core, hi, hcore, rfl⟩ := timePatterns_eq_ok.1 h
  refine ⟨i, core, hi, hcore, ?_⟩
  rw [collect_negateIf hf, collect_withReferences hf, ← collect_append]

/-! ### Blank nodes in conditions -/

/-- The label of a blank node. -/
def Term.label? : Term → Option String
  | .blank label => some label
  | .var _ | .iri _ | .literal _ => none

/-- The subject and the object. -/
def Triple.terms (t : Triple) : List Term := [t.subject, t.object]

/-- The labels of the blank nodes of triples. -/
def blankLabels (triples : List Triple) : List String :=
  triples.flatMap fun t => t.terms.filterMap Term.label?

@[simp] theorem label?_var (v : Variable) : (Term.var v).label? = none := rfl

@[simp] theorem label?_iri (iri : Iri) : (Term.iri iri).label? = none := rfl

@[simp] theorem label?_literal (l : Literal) : (Term.literal l).label? = none := rfl

/-- A constant has no label. -/
theorem label?_of_isConstant {t : Term} (h : t.isConstant = true) : t.label? = none := by
  cases t with
  | iri i => rfl
  | literal l => rfl
  | var v => exact absurd h (by simp [Term.isConstant])
  | blank label => exact absurd h (by simp [Term.isConstant])

/-- Whether no blank node stands in the expression, apart from those in patterns. -/
def Expression.isUnlabelled : Expression → Bool
  | .term t => t.label? = none
  | .binary _ left right => left.isUnlabelled && right.isUnlabelled
  | .existence _ _ => true

@[simp] theorem isUnlabelled_term (t : Term) :
    (Expression.term t).isUnlabelled = decide (t.label? = none) := by
  rw [Expression.isUnlabelled]

@[simp] theorem isUnlabelled_binary (operator : Operator) (left right : Expression) :
    (Expression.binary operator left right).isUnlabelled =
      (left.isUnlabelled && right.isUnlabelled) := by
  rw [Expression.isUnlabelled]

@[simp] theorem isUnlabelled_existence (negated : Bool) (ps : List Pattern) :
    (Expression.existence negated ps).isUnlabelled = true := by
  rw [Expression.isUnlabelled]

/-- Of the patterns of a condition, only those with a blank node show something. -/
structure SeesBlankNodes (f : Pattern → List β) : Prop extends SeesThrough f where
  bind : ∀ target value, value.isUnlabelled = true → f (.bind target value) = []
  filter : ∀ condition, condition.isUnlabelled = true → f (.filter condition) = []
  triples : ∀ triples, blankLabels triples = [] → f (.triples triples) = []

namespace SeesBlankNodes

theorem collect_referenceFilter (hf : SeesBlankNodes f) (n : Namespaces) (references : References)
    (statement : Variable) : collect f (referenceFilter n references statement) = [] := by
  cases references <;>
    simp [referenceFilter, Pattern.triple, hf.filter, hf.triples, blankLabels,
      Triple.terms]

theorem collect_excludeValue (hf : SeesBlankNodes f) {value : Term} (hvalue : value.isConstant = true)
    (tail : List Path) : collect f (excludeValue n c value tail) = [] := by
  have hlabel := label?_of_isConstant hvalue
  unfold excludeValue
  split
  · simp [Pattern.triple, hf.minus, hf.triples, blankLabels, Triple.terms, hlabel]
  · rfl

theorem collect_quantityCore (hf : SeesBlankNodes f) {i : Nat} {core : List Pattern}
    (h : QuantityCore s c i core) : collect f core = [] := by
  have hreferences := hf.collect_referenceFilter s.namespaces c.references (.numbered "statement" i)
  have hfilter : ∀ (relation : Relation) (amount : Variable) (other : Term),
      (Expression.term other).isUnlabelled = true →
        collect f (amountFilter relation amount other) = [] := by
    intro relation amount other hother
    cases relation <;>
      simp [amountFilter, Relation.comparison, Pattern.comparison, hf.filter, hother]
  cases h <;>
    simp [plainAmountPatterns, convertedAmountPatterns, claimTriple, blankLabels, Triple.terms,
      hf.bind, hf.triples, hfilter, hreferences]

theorem collect_timeCore (hf : SeesBlankNodes f) {i : Nat} {core : List Pattern}
    (h : TimeCore n c i core) : collect f core = [] := by
  have hvalue : collect f (statementValuePatterns n c.property i) = [] := by
    simp [statementValuePatterns, claimTriple, Pattern.triple, blankLabels, Triple.terms,
      hf.triples]
  cases h with
  | anyInstant _ =>
    simp [hvalue, instantPattern, Pattern.triple, blankLabels, Triple.terms, hf.triples]
  | day _ _ hpattern =>
    rcases dayPattern_cases hpattern with rfl | ⟨operator, rfl⟩ <;>
      simp [hvalue, instantPattern, Pattern.triple, Pattern.comparison, blankLabels, Triple.terms,
        hf.bind, hf.filter, hf.triples]
  | interval _ _ _ hpattern =>
    rcases intervalPattern_cases hpattern with ⟨before, operator, after, rfl⟩ | rfl | rfl <;>
      simp [hvalue, precisionPatterns, instantPattern, rangeHint, Pattern.triple,
        Pattern.comparison, blankLabels, Triple.terms, hf.filter, hf.triples]

/-- **What is read off a condition.**  It is read off the triples with its blank node, if it has
one. -/
theorem collect_condition (hf : SeesBlankNodes f) (h : c.patterns s scope = .ok ps) :
    (c.hasBlankNode = true ∧ ∃ i, scope.position = some i ∧ collect f ps =
      f (statementLink s.namespaces c.property i (.sequence [s.namespaces.statement c.property])
        (anyValueNode c.property scope.suffix))) ∨
    (c.hasBlankNode = false ∧ collect f ps = []) := by
  rcases Condition.patterns_cases h with
    ⟨relation, value, tail, kind, hps⟩ | ⟨hd, hps⟩ | ⟨hd, hps⟩
  · obtain ⟨i, object, path, hi, hobject, hcollect⟩ := collect_statement hf.toSeesThrough hps
    rw [collect_append, collect_append, hf.collect_referenceFilter, List.append_nil] at hcollect
    by_cases hr : relation = .regardless
    · refine .inl ⟨kind.regardless_iff.1 hr, i, hi, ?_⟩
      subst hr
      cases hobject
      rw [hcollect, statementLink, collect_triples]
      simp [excludeValue]
    · have hconstant := kind.isConstant hr
      have hlabel : object.label? = none := by
        rcases statementObject_cases hobject hr with rfl | rfl
        · exact label?_of_isConstant hconstant
        · rfl
      refine .inr ⟨by simpa [hr] using kind.regardless_iff, ?_⟩
      rw [hcollect, hf.collect_excludeValue hconstant, List.append_nil]
      simp [statementLink, claimTriple, blankLabels, Triple.terms, hf.triples, hlabel]
  · obtain ⟨i, core, -, hcore, hcollect⟩ := collect_quantity hf.toSeesThrough hps
    exact .inr ⟨by simp [Condition.hasBlankNode, hd], by rw [hcollect, hf.collect_quantityCore hcore]⟩
  · obtain ⟨i, core, -, hcore, hcollect⟩ := collect_time hf.toSeesThrough hps
    refine .inr ⟨by simp [Condition.hasBlankNode, hd], ?_⟩
    rw [hcollect, collect_append, hf.collect_timeCore hcore, hf.collect_referenceFilter, List.append_nil]

end SeesBlankNodes

/-! ## Queries -/

theorem collect_map_group (hf : SeesThrough f) (arms : List (List Pattern)) :
    collect f (arms.map .group) = arms.flatMap (collect f) := by
  induction arms with
  | nil => rfl
  | cons arm arms ih =>
    rw [List.map_cons, collect_group, hf.group, List.nil_append, ih, List.flatMap_cons]

namespace Query

variable {q : Query} {built : Condition × Nat → List Pattern} {answer : SelectQuery}

/-- A union shows what is read off it, and what is read off its arms. -/
theorem collect_elementPatterns (hf : SeesThrough f) (e : Element (Condition × Nat)) :
    collect f (e.map built).patterns =
      (match e with
        | .single _ => []
        | .group ms => f (.union (ms.map fun m => .group (built m)))) ++
        e.members.flatMap fun m => collect f (built m) := by
  cases e with
  | single m => simp [Element.map, Element.patterns, Element.members]
  | group ms =>
    rw [Element.map, Element.patterns, collect_union, collect_map_group hf, collect_nil,
      List.append_nil, List.map_map, List.flatMap_map]
    rfl

/-- Unless something is read off unions, it is read off the conditions one after the other. -/
theorem collect_body (hf : SeesThrough f) (hunion : ∀ arms, f (.union arms) = []) :
    collect f (q.body built) = q.conditions.zipIdx.flatMap fun m => collect f (built m) := by
  have hmembers : ∀ e : Element (Condition × Nat), collect f (e.map built).patterns =
      e.members.flatMap fun m => collect f (built m) := by
    intro e
    rw [collect_elementPatterns hf]
    cases e with
    | single m => rfl
    | group ms => simp only [hunion, List.nil_append]
  rw [body, collect_flatMap, ← flatMap_members_tree, List.flatMap_assoc]
  simp only [hmembers]

/-- **What is read off a compiled query.**  The patterns for labels come first, if there are any, and
then the pattern for any item, if there is one. -/
theorem collect_compile (hf : SeesThrough f) (h : q.compile s = .ok answer) :
    ∃ (built : Condition × Nat → List Pattern) (items : SelectQuery), q.Builds s built ∧
      items.projection = [Variable.item] ∧
      answer.projection = Variable.item :: (if q.omitLabels then [] else [⟨"itemLabel"⟩]) ∧
      collect f answer.patterns =
        (if q.omitLabels then []
          else f (.service (s.namespaces.ontology "label") false [labelLanguagePattern s]) ++
            (f (labelLanguagePattern s) ++ f items.toPattern)) ++
        ((if (q.body built).all Pattern.isMinus then f (anyItem s.namespaces) else []) ++
          collect f (q.body built)) := by
  obtain ⟨items, hitems, rfl⟩ := compile_eq_ok.1 h
  obtain ⟨built, hbuilt, rfl⟩ := compileItems_eq_ok.1 hitems
  refine ⟨built, ⟨true, [Variable.item], withAnyItem s.namespaces (q.body built), q.limit⟩,
    hbuilt, rfl, ?_, ?_⟩
  · split <;> rfl
  · have hitems : ∀ ps, collect f (withAnyItem s.namespaces ps) =
        (if ps.all Pattern.isMinus then f (anyItem s.namespaces) else []) ++ collect f ps := by
      intro ps
      unfold withAnyItem
      split
      · cases ps <;> simp [anyItem, Pattern.triple]
      · rfl
    split
    · exact hitems _
    · simp [withLabels, hf.group, labelLanguagePattern, Pattern.triple, hitems]

end Query

end

end WikibaseQuery

import WikibaseQuery.Proofs.Positions

/-!
# Variables that are bound twice

A `BIND` assigns a variable, so the patterns before it in the same braces must not use the variable
yet.

* `noRebinding_append` — patterns one after another;
* `Condition.unrebound_iff` — within one condition the rule is broken only where an instant given
  to the day should match: the instant of the statement is bound to the value once more;
* `Query.neverRebinds_iff` — two conditions never break the rule together.
-/

namespace WikibaseQuery

/-! ## Patterns one after another -/

/-- No pattern binds a variable that one before it has, at any depth. -/
def NoRebinding (ps : List Pattern) : Prop :=
  ∀ before target value after, ps = before ++ .bind target value :: after →
    .var target ∉ collect Pattern.terms before

/-- The variable that a pattern binds. -/
def Pattern.target? : Pattern → Option Variable
  | .bind target _ => some target
  | _ => none

/-- The variables that patterns bind in their own braces. -/
def targets (ps : List Pattern) : List Variable := ps.filterMap Pattern.target?

section

variable {ps qs : List Pattern}

@[simp] theorem targets_nil : targets [] = [] := rfl

@[simp] theorem targets_append : targets (ps ++ qs) = targets ps ++ targets qs :=
  List.filterMap_append

theorem mem_targets {v : Variable} :
    v ∈ targets ps ↔ ∃ before value after, ps = before ++ .bind v value :: after := by
  constructor
  · intro hv
    obtain ⟨p, hp, htarget⟩ := List.mem_filterMap.1 hv
    obtain ⟨before, after, rfl⟩ := List.append_of_mem hp
    cases p with
    | bind target value =>
      obtain rfl : target = v := Option.some.inj htarget
      exact ⟨before, value, after, rfl⟩
    | _ => exact absurd htarget (by simp [Pattern.target?])
  · rintro ⟨before, value, after, rfl⟩
    simp [targets, Pattern.target?]

/-- Without a binding nothing is bound twice. -/
theorem noRebinding_of_targets (h : targets ps = []) : NoRebinding ps := by
  intro before target value after heq
  have hmem : target ∈ targets ps := mem_targets.2 ⟨before, value, after, heq⟩
  rw [h] at hmem
  exact absurd hmem List.not_mem_nil

@[simp] theorem noRebinding_nil : NoRebinding [] := noRebinding_of_targets rfl

/-- **Patterns one after another.**  The second ones must not bind what the first ones have. -/
theorem noRebinding_append :
    NoRebinding (ps ++ qs) ↔ NoRebinding ps ∧ NoRebinding qs ∧
      ∀ v ∈ targets qs, .var v ∉ collect Pattern.terms ps := by
  constructor
  · intro h
    refine ⟨?_, ?_, ?_⟩
    · rintro before target value after rfl
      exact h before target value (after ++ qs) (by simp)
    · rintro before target value after rfl hmem
      exact h (ps ++ before) target value after (by simp)
        (by rw [collect_append]; exact List.mem_append_right _ hmem)
    · intro v hv hmem
      obtain ⟨before, value, after, rfl⟩ := mem_targets.1 hv
      exact h (ps ++ before) v value after (by simp)
        (by rw [collect_append]; exact List.mem_append_left _ hmem)
  · rintro ⟨hps, hqs, hacross⟩ before target value after heq
    rcases List.append_eq_append_iff.1 heq with ⟨middle, rfl, hqs'⟩ | ⟨middle, rfl, hqs'⟩
    · rw [collect_append, List.mem_append, not_or]
      exact ⟨hacross target (mem_targets.2 ⟨middle, value, after, hqs'⟩),
        hqs middle target value after hqs'⟩
    · cases middle with
      | nil =>
        have hsecond := hacross target (mem_targets.2 ⟨[], value, after, by simpa using hqs'.symm⟩)
        simpa using hsecond
      | cons p middle =>
        obtain ⟨rfl, -⟩ := List.cons.inj hqs'
        exact hps before target value middle rfl

/-- The first pattern and those after it. -/
theorem noRebinding_cons {p : Pattern} :
    NoRebinding (p :: ps) ↔
      NoRebinding ps ∧ ∀ v ∈ targets ps, .var v ∉ collect Pattern.terms [p] := by
  have hone : NoRebinding [p] := by
    intro before target value after heq
    obtain rfl : before = [] := by cases before <;> simp_all
    exact List.not_mem_nil
  rw [← List.singleton_append, noRebinding_append, and_iff_right hone]

/-- Lists of patterns one after another, where no list binds what one before it has. -/
theorem noRebinding_flatMap {α : Type} {as : List α} {patterns : α → List Pattern}
    (h : as.Pairwise fun a b =>
      ∀ v ∈ targets (patterns b), .var v ∉ collect Pattern.terms (patterns a)) :
    NoRebinding (as.flatMap patterns) ↔ ∀ a ∈ as, NoRebinding (patterns a) := by
  induction as with
  | nil => simp
  | cons a as ih =>
    obtain ⟨hfirst, hothers⟩ := List.pairwise_cons.1 h
    have hacross : ∀ v ∈ targets (as.flatMap patterns),
        .var v ∉ collect Pattern.terms (patterns a) := by
      intro v hv
      rw [targets, List.filterMap_flatMap] at hv
      obtain ⟨b, hb, hv⟩ := List.mem_flatMap.1 hv
      exact hfirst b hb v hv
    rw [List.flatMap_cons, noRebinding_append, ih hothers, and_iff_left hacross,
      List.forall_mem_cons]

end

/-! ## Patterns and all within them -/

/-- No variable is bound twice between any braces. -/
def rebindingRules : Rules where
  body := NoRebinding

/-- No variable is bound twice, in these patterns and within them. -/
def Unrebound (ps : List Pattern) : Prop := NoRebinding ps ∧ ObeyIn rebindingRules ps

theorem rebindingRules_sparesTriples : rebindingRules.SparesTriples where
  var _ := trivial
  label _ := trivial
  iri _ := trivial
  operand _ := trivial
  path _ _ := trivial
  block _ := trivial

theorem Expression.obeys_rebindingRules (t : Term) :
    (Expression.term t).Obeys rebindingRules :=
  rebindingRules_sparesTriples.expression t

/-- The patterns bind nothing themselves, and no variable is bound twice within them. -/
def BindsNothing (ps : List Pattern) : Prop := targets ps = [] ∧ ObeyIn rebindingRules ps

section

variable {ps qs : List Pattern} {n : Namespaces} {s : Settings} {c : Condition} {i : Nat}

theorem BindsNothing.unrebound (h : BindsNothing ps) : Unrebound ps :=
  ⟨noRebinding_of_targets h.1, h.2⟩

theorem BindsNothing.forall_mem_targets (h : BindsNothing ps) {P : Variable → Prop} :
    ∀ v ∈ targets ps, P v := by
  rw [h.1]
  exact fun v hv => absurd hv List.not_mem_nil

theorem bindsNothing_nil : BindsNothing [] := ⟨rfl, trivial⟩

theorem BindsNothing.append (hps : BindsNothing ps) (hqs : BindsNothing qs) :
    BindsNothing (ps ++ qs) := by
  refine ⟨?_, obeyIn_append.2 ⟨hps.2, hqs.2⟩⟩
  rw [targets_append, hps.1, hqs.1, List.append_nil]

/-- Patterns that bind nothing may follow any others. -/
theorem BindsNothing.append_iff (hqs : BindsNothing qs) : Unrebound (ps ++ qs) ↔ Unrebound ps := by
  unfold Unrebound
  rw [noRebinding_append, obeyIn_append, hqs.1]
  simp [hqs.unrebound.1, hqs.2]

theorem bindsNothing_triples (ts : List Triple) : BindsNothing [.triples ts] :=
  ⟨rfl, rebindingRules_sparesTriples.triples ts, trivial⟩

theorem bindsNothing_minus (h : Unrebound ps) : BindsNothing [.minus ps] :=
  ⟨rfl, ⟨h.1, trivial, h.2⟩, trivial⟩

theorem bindsNothing_comparison {left right : Expression} (operator : Operator)
    (hleft : left.Obeys rebindingRules) (hright : right.Obeys rebindingRules) :
    BindsNothing [.comparison left operator right] :=
  ⟨rfl, ⟨hleft, hright⟩, trivial⟩

theorem bindsNothing_referenceFilter (n : Namespaces) (references : References)
    (statement : Variable) : BindsNothing (referenceFilter n references statement) := by
  have hderived : Unrebound [Pattern.triple statement (n.provenance "wasDerivedFrom")
    Variable.reference] := (bindsNothing_triples _).unrebound
  cases references with
  | regardless => exact bindsNothing_nil
  | present | absent => exact ⟨rfl, ⟨hderived.1, trivial, hderived.2⟩, trivial⟩

theorem bindsNothing_amountFilter (relation : Relation) (amount : Variable) (other : Term) :
    BindsNothing (amountFilter relation amount other) := by
  have hfilter : ∀ operator, BindsNothing [.comparison amount operator other] := fun operator =>
    bindsNothing_comparison operator (Expression.obeys_rebindingRules _)
      (Expression.obeys_rebindingRules _)
  cases relation with
  | regardless => exact bindsNothing_nil
  | _ => exact hfilter _

/-! ### Negation and references -/

theorem unrebound_negateIf (negate : Bool) : Unrebound (negateIf negate ps) ↔ Unrebound ps := by
  cases negate with
  | false => rfl
  | true => exact ⟨fun h => ⟨h.2.1.1, h.2.1.2.2⟩, fun h => (bindsNothing_minus h).unrebound⟩

theorem unrebound_withReferences (references : References) (statement : Variable) :
    Unrebound (withReferences n references statement ps) ↔ Unrebound ps := by
  have hgroup : ∀ qs, Unrebound [.group qs] ↔ Unrebound qs := fun qs =>
    (and_iff_right (noRebinding_of_targets rfl)).trans (and_iff_left trivial)
  unfold withReferences
  split
  · rfl
  · rw [hgroup, (bindsNothing_referenceFilter n references statement).append_iff]

/-- Negation binds nothing that was not bound before. -/
theorem targets_negateIf_subset (negate : Bool) : targets (negateIf negate ps) ⊆ targets ps := by
  cases negate with
  | false => exact List.Subset.refl _
  | true => exact List.nil_subset _

theorem targets_withReferences_subset (references : References) (statement : Variable) :
    targets (withReferences n references statement ps) ⊆ targets ps := by
  unfold withReferences
  split
  · exact List.Subset.refl _
  · exact List.nil_subset _

/-! ## Conditions -/

/-- The condition matches an instant that is given to the day. -/
def Condition.BindsDay (c : Condition) : Prop :=
  c.datatype = .time ∧ c.relation = .matching ∧ ∃ instant, c.value = .time instant 11

/-- A condition on a statement by a term binds nothing. -/
theorem unrebound_statement {scope : Scope} {value : Term} {tail : List Path}
    (h : statementPatterns n c scope value tail = .ok ps) : Unrebound ps ∧ targets ps = [] := by
  obtain ⟨j, object, path, -, -, rfl⟩ := statementPatterns_eq_ok.1 h
  have hlink : BindsNothing [statementLink n c.property j path object] := bindsNothing_triples _
  have hexclude : BindsNothing (excludeValue n c value tail) := by
    unfold excludeValue
    split
    · exact bindsNothing_minus (bindsNothing_triples _).unrebound
    · exact bindsNothing_nil
  constructor
  · rw [hexclude.append_iff, unrebound_negateIf, unrebound_withReferences]
    exact hlink.unrebound
  · have hsubset : targets (negateIf c.negate (withReferences n c.references
        (.numbered "statement" j) [statementLink n c.property j path object])) ⊆ [] :=
      List.Subset.trans (targets_negateIf_subset _) (targets_withReferences_subset _ _)
    rw [targets_append, hexclude.1, List.append_nil]
    exact List.subset_nil.1 hsubset

theorem numbered_inj {word word' : String} :
    Variable.numbered word i = .numbered word' i ↔ word = word' := by
  constructor
  · intro h
    have hnames := congrArg (fun v : Variable => v.name.toList) h
    simp only [Variable.numbered, String.toList_append] at hnames
    exact String.toList_inj.1 (List.append_cancel_right hnames)
  · rintro rfl
    rfl

/-- Amounts are never bound twice: the conversion binds the amount and the unit of the condition
first, and the product before anything uses it. -/
theorem QuantityCore.unrebound {core : List Pattern} (h : QuantityCore s c i core) :
    Unrebound core ∧ ∀ v ∈ targets core, v.At i := by
  have hreferences := bindsNothing_referenceFilter s.namespaces c.references
    (.numbered "statement" i)
  have hfilters := fun (amount : Variable) (other : Term) =>
    (bindsNothing_amountFilter c.relation amount other).append hreferences
  cases h with
  | anyAmount _ =>
    have hcore : BindsNothing (plainAmountPatterns s.namespaces c none i) :=
      (bindsNothing_triples _).append hreferences
    exact ⟨hcore.unrebound, hcore.forall_mem_targets⟩
  | @plain amount _ _ =>
    have hcore : BindsNothing (plainAmountPatterns s.namespaces c (some amount) i) :=
      (bindsNothing_triples _).append
        (hfilters (.numbered "numericQuantity" i) (Literal.ofAmount amount))
    exact ⟨hcore.unrebound, hcore.forall_mem_targets⟩
  | @converted amount unit conversion _ _ _ =>
    have hfilter := hfilters (.numbered "statementQuantity" i)
      (Variable.numbered "coherentUserQuantity" i)
    have hterm := Expression.obeys_rebindingRules
    constructor
    · refine hfilter.append_iff.2 ⟨?_, ?_⟩
      · simp [noRebinding_cons, targets, Pattern.target?, Pattern.terms, Expression.terms,
          Triple.terms, numbered_inj]
      · exact ⟨⟨trivial, hterm _⟩, ⟨trivial, hterm _⟩, (bindsNothing_triples _).2.1,
          ⟨trivial, hterm _, hterm _⟩, (bindsNothing_triples _).2⟩
    · have hbound : ∀ word, IsWord word → (Variable.numbered word i).At i :=
        fun word hword => Variable.at_numbered hword
      rw [convertedAmountPatterns, targets_append, hfilter.1, List.append_nil]
      simp +decide [targets, Pattern.target?, hbound]

theorem bindsNothing_found (n : Namespaces) (property : String) (i : Nat) :
    BindsNothing (statementValuePatterns n property i ++ [instantPattern n property i]) :=
  (bindsNothing_triples _).append ((bindsNothing_triples _).append (bindsNothing_triples _))

theorem bindsNothing_dayPattern {instant : Variable} {value : Literal} {pattern : Pattern}
    (hr : c.relation ≠ .matching) (h : dayPattern c instant value = .ok pattern) :
    BindsNothing [pattern] := by
  have hterm := Expression.obeys_rebindingRules
  unfold dayPattern at h
  split at h <;> cases h
  case h_1 hmatching => exact absurd hmatching hr
  all_goals exact bindsNothing_comparison _ (hterm _) (hterm _)

theorem bindsNothing_intervalPattern {instant : Variable} {value following : Literal}
    {pattern : Pattern} (h : intervalPattern c instant value following = .ok pattern) :
    BindsNothing [pattern] := by
  have hterm := Expression.obeys_rebindingRules
  rcases intervalPattern_cases h with ⟨before, operator, after, rfl⟩ | rfl | rfl
  · exact bindsNothing_comparison _ ⟨hterm _, hterm _⟩ ⟨hterm _, hterm _⟩
  all_goals exact bindsNothing_comparison _ (hterm _) (hterm _)

/-- The instant of a statement is bound before the day that it should match. -/
theorem not_unrebound_sameDay (n : Namespaces) (property : String) (i : Nat) (value : Literal) :
    ¬ Unrebound (statementValuePatterns n property i ++
      [instantPattern n property i, .bind (.underscored property i) value]) := by
  intro h
  refine h.1 (statementValuePatterns n property i ++ [instantPattern n property i])
    (.underscored property i) value [] (by simp) ?_
  simp [instantPattern, Pattern.triple, Pattern.terms, Triple.terms]

/-- Instants are bound twice exactly where one that is given to the day should match. -/
theorem TimeCore.unrebound_iff {core : List Pattern} (hd : c.datatype = .time)
    (h : TimeCore n c i core) :
    (Unrebound core ↔ ¬ c.BindsDay) ∧ ∀ v ∈ targets core, v.At i := by
  have hnone : ∀ {qs : List Pattern}, BindsNothing qs → ¬ c.BindsDay →
      (Unrebound qs ↔ ¬ c.BindsDay) ∧ ∀ v ∈ targets qs, v.At i := fun hqs hday =>
    ⟨iff_of_true hqs.unrebound hday, hqs.forall_mem_targets⟩
  cases h with
  | anyInstant hr =>
    exact hnone (bindsNothing_found n c.property i) fun hday =>
      absurd (hr.symm.trans hday.2.1) (by simp)
  | @day value pattern hr hv hpattern =>
    by_cases hmatching : c.relation = .matching
    · have hbind : pattern = .bind (.underscored c.property i) (Literal.dateTime value) := by
        rw [dayPattern, hmatching] at hpattern
        exact (Except.ok.inj hpattern).symm
      subst hbind
      have htargets : targets (statementValuePatterns n c.property i ++
          [instantPattern n c.property i, .bind (.underscored c.property i)
            (Literal.dateTime value)]) = [.underscored c.property i] := rfl
      refine ⟨iff_of_false (not_unrebound_sameDay n c.property i _) fun hday =>
        hday ⟨hd, hmatching, value, hv⟩, ?_⟩
      rw [htargets]
      exact List.forall_mem_singleton.2 (Variable.at_underscored _)
    · have hcore := (bindsNothing_found n c.property i).append
        (bindsNothing_dayPattern hmatching hpattern)
      rw [List.append_assoc] at hcore
      exact hnone hcore fun hday => hmatching hday.2.1
  | @interval value following number pattern hr hv hfollowing hpattern =>
    have hprecision : BindsNothing (precisionPatterns n number i) :=
      (bindsNothing_triples _).append ((bindsNothing_triples _).append
        (bindsNothing_comparison _ (Expression.obeys_rebindingRules _)
          (Expression.obeys_rebindingRules _)))
    have hcore : BindsNothing (statementValuePatterns n c.property i ++
        precisionPatterns n number i ++ [instantPattern n c.property i, rangeHint n, pattern]) :=
      (((bindsNothing_triples _).append (bindsNothing_triples _)).append hprecision).append
        ((bindsNothing_triples _).append ((bindsNothing_triples _).append
          (bindsNothing_intervalPattern hpattern)))
    refine hnone hcore fun hday => ?_
    obtain ⟨instant, heq⟩ := hday.2.2
    obtain ⟨-, hnumber⟩ := Value.time.inj (hv.symm.trans heq)
    exact hfollowing.ne_eleven hnumber

/-- **Within one condition** a variable is bound twice exactly where an instant that is given to the
day should match.  Whatever a condition binds belongs to its position. -/
theorem Condition.unrebound_iff {scope : Scope} (hi : scope.position = some i)
    (h : c.patterns s scope = .ok ps) :
    (Unrebound ps ↔ ¬ c.BindsDay) ∧ ∀ v ∈ targets ps, v.At i := by
  rcases Condition.patterns_cases h with
    ⟨relation, value, tail, kind, hps⟩ | ⟨hd, hps⟩ | ⟨hd, hps⟩
  · obtain ⟨hunrebound, htargets⟩ := unrebound_statement hps
    refine ⟨iff_of_true hunrebound fun hday => kind.ne_time hday.1, ?_⟩
    rw [htargets]
    exact fun v hv => absurd hv List.not_mem_nil
  · obtain ⟨j, core, hj, hcore, rfl⟩ := quantityPatterns_eq_ok.1 hps
    obtain rfl : i = j := Option.some.inj (hi.symm.trans hj)
    obtain ⟨hunrebound, htargets⟩ := hcore.unrebound
    have hday : ¬ c.BindsDay := fun hday => absurd (hd.symm.trans hday.1) (by simp)
    exact ⟨iff_of_true ((unrebound_negateIf _).2 hunrebound) hday,
      fun v hv => htargets v (targets_negateIf_subset _ hv)⟩
  · obtain ⟨j, core, hj, hcore, rfl⟩ := timePatterns_eq_ok.1 hps
    obtain rfl : i = j := Option.some.inj (hi.symm.trans hj)
    obtain ⟨hunrebound, htargets⟩ := hcore.unrebound_iff hd
    rw [unrebound_negateIf, unrebound_withReferences]
    exact ⟨hunrebound, fun v hv =>
      htargets v (targets_withReferences_subset _ _ (targets_negateIf_subset _ hv))⟩

end

/-! ## Queries -/

/-- No variable is bound twice between any braces of the query. -/
def NeverRebinds (q : SelectQuery) : Prop := q.Obeys rebindingRules

namespace Query

variable {s : Settings} {q : Query} {built : Condition × Nat → List Pattern}

theorem rebindingRules_admitsFrame (s : Settings) : rebindingRules.AdmitsFrame s where
  item := trivial
  itemLabel := trivial
  anyValue := trivial
  iri _ := trivial
  block _ := trivial
  projection _ _ := trivial
  language := noRebinding_of_targets rfl
  labels _ := ⟨noRebinding_of_targets rfl, noRebinding_of_targets rfl⟩
  ungrouped _ _ := trivial

/-- The pattern for any item comes first only where nothing is bound. -/
theorem noRebinding_withAnyItem (n : Namespaces) (ps : List Pattern) :
    NoRebinding (withAnyItem n ps) ↔ NoRebinding ps := by
  unfold withAnyItem
  split
  · rename_i hall
    have hnone : targets ps = [] := by
      refine List.filterMap_eq_nil_iff.2 fun p hp => ?_
      have hminus := List.all_eq_true.1 hall p hp
      cases p with
      | minus _ => rfl
      | _ => exact absurd hminus (by simp [Pattern.isMinus])
    exact iff_of_true (noRebinding_of_targets hnone) (noRebinding_of_targets hnone)
  · rfl

/-- A union binds nothing, and its arms are groups of their own. -/
theorem unrebound_elementPatterns (e : Element (Condition × Nat)) :
    Unrebound (e.map built).patterns ↔ ∀ m ∈ e.members, Unrebound (built m) := by
  cases e with
  | single m => exact (List.forall_mem_singleton (p := fun m => Unrebound (built m))).symm
  | group ms =>
    rw [Unrebound, obeyIn_elementPatterns]
    exact (and_iff_right (noRebinding_of_targets rfl)).trans (and_iff_right trivial)

/-- The positions of different elements are different. -/
theorem pairwise_position_tree (q : Query) :
    q.tree.Pairwise fun a b => ∀ m ∈ a.members, ∀ m' ∈ b.members, m.2 ≠ m'.2 := by
  have hpositions := pairwise_position_ne q.conditions
  rw [← flatMap_members_tree, List.pairwise_flatMap] at hpositions
  exact hpositions.2

/-- No element binds what an element before it has. -/
theorem pairwise_targets_tree (h : q.Builds s built) :
    q.tree.Pairwise fun a b => ∀ v ∈ targets (b.map built).patterns,
      .var v ∉ collect Pattern.terms (a.map built).patterns := by
  refine (pairwise_position_tree q).imp_of_mem fun {a b} ha hb hpositions v hv hmem => ?_
  obtain ⟨m, hm, hbound⟩ : ∃ m ∈ b.members, v.At m.2 := by
    cases b with
    | single m =>
      have hbuilt := h m (mem_zipIdx_of_mem_tree hb (List.mem_singleton_self m))
      exact ⟨m, List.mem_singleton_self m, (Condition.unrebound_iff rfl hbuilt).2 v hv⟩
    | group ms => exact absurd hv List.not_mem_nil
  obtain ⟨m', hm', hused⟩ : ∃ m' ∈ a.members, .var v ∈ collect Pattern.terms (built m') := by
    rw [collect_elementPatterns seesThrough_terms] at hmem
    cases a with
    | single m' => exact ⟨m', List.mem_singleton_self m', by simpa [Element.members] using hmem⟩
    | group ms => exact List.mem_flatMap.1 (by simpa [Pattern.terms] using hmem)
  have hbuilt' := h m' (mem_zipIdx_of_mem_tree ha hm')
  rcases Condition.variables_at rfl hbuilt' hused with rfl | rfl | hat
  · exact Variable.not_at_item hbound
  · exact Variable.not_at_reference hbound
  · exact hpositions m' hm' m hm (hat.unique hbound)

/-- **When a variable is bound twice.**  Two conditions never bind a variable twice between them, and
one condition does exactly if it matches an instant that is given to the day: the triple with the
instant of the statement comes first, and the binding of the same variable after it. -/
theorem neverRebinds_iff {answer : SelectQuery} (h : q.compile s = .ok answer) :
    NeverRebinds answer ↔ ∀ c ∈ q.conditions, ¬ c.BindsDay := by
  obtain ⟨built, hbuilt, hobeys⟩ := obeys_compile_iff (rebindingRules_admitsFrame s) h
  have hbody : NoRebinding (withAnyItem s.namespaces (q.body built)) ↔
      ∀ e ∈ q.tree, NoRebinding (e.map built).patterns := by
    rw [noRebinding_withAnyItem, body, noRebinding_flatMap (pairwise_targets_tree hbuilt)]
  have hconditions := List.forall_mem_map (f := Prod.fst) (l := q.conditions.zipIdx)
    (P := fun c => ¬ Condition.BindsDay c)
  rw [List.zipIdx_map_fst] at hconditions
  calc NeverRebinds answer
      ↔ ∀ e ∈ q.tree, Unrebound (e.map built).patterns := by
        rw [NeverRebinds, hobeys]
        refine (and_congr hbody (and_iff_right trivial)).trans ?_
        exact forall₂_and.symm
    _ ↔ ∀ m ∈ q.conditions.zipIdx, Unrebound (built m) := by
        rw [← flatMap_members_tree, List.forall_mem_flatMap]
        exact forall₂_congr fun e _ => unrebound_elementPatterns e
    _ ↔ ∀ m ∈ q.conditions.zipIdx, ¬ m.1.BindsDay :=
        forall₂_congr fun m hm => (Condition.unrebound_iff rfl (hbuilt m hm)).1
    _ ↔ ∀ c ∈ q.conditions, ¬ c.BindsDay := hconditions.symm

/-- An instant given to the day that should match. -/
def firstOfNovember : Query where
  conditions :=
    [ ⟨"P585", .time, .time "+2009-11-01T00:00:00Z" 11, .matching, .regardless, false, false,
        none⟩ ]
  limit := none
  omitLabels := true

/-- The instant of the statement is bound once more. -/
theorem neverRebinds_firstOfNovember :
    ∃ answer, firstOfNovember.compile {} = .ok answer ∧
      (NeverRebinds answer ↔ ∀ c ∈ firstOfNovember.conditions, ¬ c.BindsDay) ∧
      ¬ NeverRebinds answer := by
  obtain ⟨answer, hanswer⟩ : ∃ answer, firstOfNovember.compile {} = .ok answer := ⟨_, rfl⟩
  have hiff := neverRebinds_iff hanswer
  refine ⟨answer, hanswer, hiff, fun hnever => ?_⟩
  exact hiff.1 hnever _ (List.mem_singleton_self _) ⟨rfl, rfl, _, rfl⟩

end Query

end WikibaseQuery

import WikibaseQuery.Proofs.Positions

/-!
# A position only names variables

Where a condition stands in a query shows in the names of its variables and in nothing else.  Moving
it to another position puts the digits of that position in place of the ones before, at the end of
each name, and leaves terms, paths, operators, labels and braces as they are.  Without a position a
condition is refused, by this or for another reason.

* `Variable.moved`, `Pattern.rename`, `renameIn` — variables at another position, and patterns with
  other variables;
* `statementPatterns_moved`, `quantityPatterns_moved`, `timePatterns_moved` — the three kinds of
  conditions;
* `Condition.patterns_moved` — all conditions.
-/

namespace WikibaseQuery

/-! ## Patterns with other variables -/

def Term.rename (f : Variable → Variable) : Term → Term
  | .var v => .var (f v)
  | .iri i => .iri i
  | .blank label => .blank label
  | .literal l => .literal l

def Triple.rename (f : Variable → Variable) (t : Triple) : Triple :=
  ⟨t.subject.rename f, t.predicate, t.object.rename f⟩

mutual

def Expression.rename (f : Variable → Variable) : Expression → Expression
  | .term t => .term (t.rename f)
  | .binary operator left right => .binary operator (left.rename f) (right.rename f)
  | .existence negated patterns => .existence negated (renameIn f patterns)

/-- The pattern with `f v` in place of every variable `v`, and nothing else changed. -/
def Pattern.rename (f : Variable → Variable) : Pattern → Pattern
  | .triples ts => .triples (ts.map (Triple.rename f))
  | .bind target value => .bind (f target) (value.rename f)
  | .filter condition => .filter (condition.rename f)
  | .union arms => .union (renameIn f arms)
  | .minus patterns => .minus (renameIn f patterns)
  | .group patterns => .group (renameIn f patterns)
  | .service endpoint silent patterns => .service endpoint silent (renameIn f patterns)
  | .subquery distinct projection patterns limit =>
    .subquery distinct (projection.map f) (renameIn f patterns) limit

/-- The patterns with `f v` in place of every variable `v`. -/
def renameIn (f : Variable → Variable) : List Pattern → List Pattern
  | [] => []
  | p :: ps => p.rename f :: renameIn f ps

end

section

variable (f : Variable → Variable)

@[simp] theorem rename_var (v : Variable) : (Term.var v).rename f = .var (f v) := rfl

@[simp] theorem rename_iri (i : Iri) : (Term.iri i).rename f = .iri i := rfl

@[simp] theorem rename_literal (l : Literal) : (Term.literal l).rename f = .literal l := rfl

@[simp] theorem rename_triple (subject : Term) (predicate : Path) (object : Term) :
    Triple.rename f ⟨subject, predicate, object⟩ =
      ⟨subject.rename f, predicate, object.rename f⟩ := rfl

@[simp] theorem rename_term (t : Term) : (Expression.term t).rename f = .term (t.rename f) := by
  rw [Expression.rename]

@[simp] theorem rename_binary (operator : Operator) (left right : Expression) :
    (Expression.binary operator left right).rename f =
      .binary operator (left.rename f) (right.rename f) := by
  rw [Expression.rename]

@[simp] theorem rename_existence (negated : Bool) (ps : List Pattern) :
    (Expression.existence negated ps).rename f = .existence negated (renameIn f ps) := by
  rw [Expression.rename]

@[simp] theorem rename_triples (ts : List Triple) :
    (Pattern.triples ts).rename f = .triples (ts.map (Triple.rename f)) := by
  rw [Pattern.rename]

@[simp] theorem rename_bind (target : Variable) (value : Expression) :
    (Pattern.bind target value).rename f = .bind (f target) (value.rename f) := by
  rw [Pattern.rename]

@[simp] theorem rename_filter (condition : Expression) :
    (Pattern.filter condition).rename f = .filter (condition.rename f) := by
  rw [Pattern.rename]

@[simp] theorem rename_minus (ps : List Pattern) :
    (Pattern.minus ps).rename f = .minus (renameIn f ps) := by
  rw [Pattern.rename]

@[simp] theorem rename_group (ps : List Pattern) :
    (Pattern.group ps).rename f = .group (renameIn f ps) := by
  rw [Pattern.rename]

@[simp] theorem renameIn_nil : renameIn f [] = [] := by
  rw [renameIn]

@[simp] theorem renameIn_cons (p : Pattern) (ps : List Pattern) :
    renameIn f (p :: ps) = p.rename f :: renameIn f ps := by
  rw [renameIn]

@[simp] theorem renameIn_append (ps qs : List Pattern) :
    renameIn f (ps ++ qs) = renameIn f ps ++ renameIn f qs := by
  induction ps with
  | nil => simp
  | cons p ps ih => simp [ih]

theorem renameIn_negateIf (negate : Bool) (ps : List Pattern) :
    renameIn f (negateIf negate ps) = negateIf negate (renameIn f ps) := by
  cases negate <;> simp [negateIf]

end

/-! ## Variables at another position -/

/-- The variable at the position `j` that is called like this one at the position `i`: where the
name ends in the digits of `i`, it ends in those of `j` instead. -/
def Variable.moved (i j : Nat) (v : Variable) : Variable :=
  if (toString i).toList.isSuffixOf v.name.toList then
    ⟨String.ofList (v.name.toList.take (v.name.length - (toString i).length)) ++ toString j⟩
  else v

namespace Variable

variable (i j : Nat)

theorem moved_append (word : String) :
    moved i j ⟨word ++ toString i⟩ = ⟨word ++ toString j⟩ := by
  have hsuffix : (toString i).toList.isSuffixOf (word ++ toString i).toList = true := by
    rw [List.isSuffixOf_iff_suffix, String.toList_append]
    exact List.suffix_append _ _
  have hword : (word ++ toString i).toList.take
      ((word ++ toString i).length - (toString i).length) = word.toList := by
    rw [String.toList_append, String.length_append, Nat.add_sub_cancel]
    exact List.take_left' String.length_toList
  rw [moved, if_pos hsuffix]
  dsimp only
  rw [hword, String.ofList_toList]

/-- What does not end in a digit belongs to no position. -/
theorem moved_of_no_digit {v : Variable} (h : finalDigits v.name = []) : moved i j v = v := by
  unfold moved
  rw [if_neg]
  intro hsuffix
  obtain ⟨word, hword⟩ := List.isSuffixOf_iff_suffix.1 hsuffix
  have hname : v.name = String.ofList word ++ toString i := by
    rw [← String.toList_inj, String.toList_append, String.toList_ofList, hword]
  rw [hname] at h
  exact finalDigits_append_position_ne_nil _ i h

@[simp] theorem moved_item : moved i j item = item := moved_of_no_digit i j (by decide)

@[simp] theorem moved_reference : moved i j reference = reference :=
  moved_of_no_digit i j (by decide)

@[simp] theorem moved_numbered (word : String) : moved i j (numbered word i) = numbered word j :=
  moved_append i j word

@[simp] theorem moved_underscored (word : String) :
    moved i j (underscored word i) = underscored word j :=
  moved_append i j (word ++ "_")

end Variable

/-! ## Conditions at another position -/

section

variable {s : Settings} {n : Namespaces} {c : Condition} {suffix : String} (i j : Nat)

theorem renameIn_referenceFilter (n : Namespaces) (references : References) (v : Variable) :
    renameIn (Variable.moved i j) (referenceFilter n references v) =
      referenceFilter n references (v.moved i j) := by
  cases references <;> simp [referenceFilter, Pattern.triple]

theorem renameIn_withReferences (n : Namespaces) (references : References) (v : Variable)
    (ps : List Pattern) :
    renameIn (Variable.moved i j) (withReferences n references v ps) =
      withReferences n references (v.moved i j) (renameIn (Variable.moved i j) ps) := by
  cases references <;> simp [withReferences, referenceFilter, Pattern.triple]

theorem renameIn_excludeValue {value : Term} (hvalue : value.rename (Variable.moved i j) = value)
    (tail : List Path) :
    renameIn (Variable.moved i j) (excludeValue n c value tail) = excludeValue n c value tail := by
  unfold excludeValue
  split
  · simp [Pattern.triple, hvalue]
  · simp

/-! ### Statements by a term -/

theorem statementPatterns_moved {value : Term} (hvalue : value.rename (Variable.moved i j) = value)
    (tail : List Path) :
    statementPatterns n c ⟨some j, suffix⟩ value tail =
      (statementPatterns n c ⟨some i, suffix⟩ value tail).map (renameIn (Variable.moved i j)) := by
  have hnode : (anyValueNode c.property suffix).rename (Variable.moved i j) =
      anyValueNode c.property suffix := rfl
  unfold statementPatterns statementObject
  cases hr : c.relation <;>
    simp [Scope.index, bind, Except.bind, pure, Except.pure, Except.map, renameIn_negateIf,
      renameIn_withReferences, renameIn_excludeValue _ _ hvalue, claimTriple, hvalue, hnode]

theorem textPatterns_moved :
    textPatterns s c ⟨some j, suffix⟩ =
      (textPatterns s c ⟨some i, suffix⟩).map (renameIn (Variable.moved i j)) := by
  unfold textPatterns
  split
  · exact statementPatterns_moved i j (by split <;> rfl) []
  · rfl

theorem entityPatterns_moved :
    entityPatterns s c ⟨some j, suffix⟩ =
      (entityPatterns s c ⟨some i, suffix⟩).map (renameIn (Variable.moved i j)) := by
  unfold entityPatterns
  split
  · cases subclassTail s c with
    | error e => rfl
    | ok tail => exact statementPatterns_moved i j rfl tail
  · exact statementPatterns_moved i j rfl []
  · rfl

theorem existencePatterns_moved :
    existencePatterns s c ⟨some j, suffix⟩ =
      (existencePatterns s c ⟨some i, suffix⟩).map (renameIn (Variable.moved i j)) := by
  unfold existencePatterns
  split
  · rfl
  · rfl
  all_goals exact statementPatterns_moved i j rfl []

/-! ### Quantities -/

theorem renameIn_amountFilter (relation : Relation) (amount : Variable) (other : Term) :
    renameIn (Variable.moved i j) (amountFilter relation amount other) =
      amountFilter relation (amount.moved i j) (other.rename (Variable.moved i j)) := by
  cases relation <;> simp [amountFilter, Relation.comparison, Pattern.comparison]

theorem renameIn_plainAmountPatterns (amount : Option Binary64) :
    renameIn (Variable.moved i j) (plainAmountPatterns n c amount i) =
      plainAmountPatterns n c amount j := by
  unfold plainAmountPatterns
  cases amount <;> simp [claimTriple, renameIn_amountFilter, renameIn_referenceFilter]

theorem renameIn_convertedAmountPatterns (conversion : String) (amount : Binary64)
    (unit : String) :
    renameIn (Variable.moved i j) (convertedAmountPatterns n conversion c amount unit i) =
      convertedAmountPatterns n conversion c amount unit j := by
  unfold convertedAmountPatterns
  simp [claimTriple, renameIn_amountFilter, renameIn_referenceFilter]

theorem quantityPatterns_moved :
    quantityPatterns s c ⟨some j, suffix⟩ =
      (quantityPatterns s c ⟨some i, suffix⟩).map (renameIn (Variable.moved i j)) := by
  have hpositive : positiveQuantityPatterns s c ⟨some j, suffix⟩ =
      (positiveQuantityPatterns s c ⟨some i, suffix⟩).map (renameIn (Variable.moved i j)) := by
    unfold positiveQuantityPatterns
    split
    · exact congrArg Except.ok (renameIn_plainAmountPatterns i j none).symm
    · exact congrArg Except.ok (renameIn_plainAmountPatterns i j _).symm
    · cases s.unitConversion with
      | error setting => rfl
      | ok conversion =>
        exact congrArg Except.ok (renameIn_convertedAmountPatterns i j conversion _ _).symm
    · rfl
  unfold quantityPatterns
  rw [hpositive]
  cases positiveQuantityPatterns s c ⟨some i, suffix⟩ with
  | error e => rfl
  | ok core => exact congrArg Except.ok (renameIn_negateIf _ c.negate core).symm

/-! ### Points in time -/

theorem renameIn_statementValuePatterns (property : String) :
    renameIn (Variable.moved i j) (statementValuePatterns n property i) =
      statementValuePatterns n property j := by
  simp [statementValuePatterns, claimTriple, Pattern.triple]

theorem rename_instantPattern (property : String) :
    (instantPattern n property i).rename (Variable.moved i j) = instantPattern n property j := by
  simp [instantPattern, Pattern.triple]

theorem renameIn_precisionPatterns (number : UInt8) :
    renameIn (Variable.moved i j) (precisionPatterns n number i) =
      precisionPatterns n number j := by
  simp [precisionPatterns, rangeHint, Pattern.triple, Pattern.comparison]

/-- An instant to the day is bound or compared at the new position as at the old one. -/
theorem dayPattern_moved (value : String) :
    dayPattern c (.underscored c.property j) (.dateTime value) =
      (dayPattern c (.underscored c.property i) (.dateTime value)).map
        (Pattern.rename (Variable.moved i j)) := by
  unfold dayPattern
  cases c.relation <;> simp [Except.map, Pattern.comparison]

/-- An interval is compared with the instant at the new position as with that at the old one. -/
theorem intervalPattern_moved (value following : String) :
    intervalPattern c (.underscored c.property j) (.dateTime value) (.dateTime following) =
      (intervalPattern c (.underscored c.property i) (.dateTime value) (.dateTime following)).map
        (Pattern.rename (Variable.moved i j)) := by
  unfold intervalPattern
  cases c.relation <;> simp [Except.map, Pattern.comparison]

theorem dayPatterns_moved (value : String) :
    dayPatterns n c value j = (dayPatterns n c value i).map (renameIn (Variable.moved i j)) := by
  unfold dayPatterns
  rw [dayPattern_moved i j]
  cases dayPattern c (.underscored c.property i) (.dateTime value) with
  | error e => rfl
  | ok pattern =>
    simp [Except.map, bind, Except.bind, pure, Except.pure, renameIn_statementValuePatterns,
      rename_instantPattern]

theorem intervalPatterns_moved (value following : String) (number : UInt8) :
    intervalPatterns n c value following number j =
      (intervalPatterns n c value following number i).map (renameIn (Variable.moved i j)) := by
  unfold intervalPatterns
  rw [intervalPattern_moved i j]
  cases intervalPattern c (.underscored c.property i) (.dateTime value) (.dateTime following) with
  | error e => rfl
  | ok pattern =>
    simp [Except.map, bind, Except.bind, pure, Except.pure, renameIn_statementValuePatterns,
      renameIn_precisionPatterns, rename_instantPattern, rangeHint, Pattern.triple]

theorem positiveTimePatterns_moved :
    positiveTimePatterns n c ⟨some j, suffix⟩ =
      (positiveTimePatterns n c ⟨some i, suffix⟩).map
        (fun built => (j, renameIn (Variable.moved i j) built.2)) := by
  unfold positiveTimePatterns
  split
  · simp [Scope.index, Except.map, bind, Except.bind, pure, Except.pure,
      renameIn_statementValuePatterns, rename_instantPattern]
  · rename_i value number _ _
    cases Precision.ofNumber number with
    | error e => rfl
    | ok precision =>
      cases precision with
      | day =>
        simp only [Scope.index, bind, Except.bind, dayPatterns_moved i j]
        cases dayPatterns n c value i <;> rfl
      | month =>
        cases followingMonth value with
        | error e => rfl
        | ok following =>
          simp only [Scope.index, bind, Except.bind, intervalPatterns_moved i j]
          cases intervalPatterns n c value following number i <;> rfl
      | year =>
        cases followingYear value with
        | error e => rfl
        | ok following =>
          simp only [Scope.index, bind, Except.bind, intervalPatterns_moved i j]
          cases intervalPatterns n c value following number i <;> rfl
  · rfl

theorem timePatterns_moved :
    timePatterns s c ⟨some j, suffix⟩ =
      (timePatterns s c ⟨some i, suffix⟩).map (renameIn (Variable.moved i j)) := by
  unfold timePatterns
  rw [positiveTimePatterns_moved i j]
  cases hcore : positiveTimePatterns s.namespaces c ⟨some i, suffix⟩ with
  | error e => rfl
  | ok built =>
    obtain ⟨k, core⟩ := built
    -- The position that is handed on is the one in the scope.
    have hk : k = i := by
      have hscope := (positiveTimePatterns_eq_ok.1 hcore).1
      exact (Option.some.inj hscope).symm
    subst hk
    simp [Except.map, bind, Except.bind, pure, Except.pure, renameIn_negateIf,
      renameIn_withReferences]

end

/-! ## Conditions without a position -/

/-- **Whatever is built has a position.** -/
theorem Condition.position_of_patterns {s : Settings} {c : Condition} {scope : Scope}
    {ps : List Pattern} (h : c.patterns s scope = .ok ps) : ∃ i, scope.position = some i := by
  rcases Condition.patterns_cases h with ⟨relation, value, tail, _, hps⟩ | ⟨_, hps⟩ | ⟨_, hps⟩
  · obtain ⟨i, _, _, hi, _⟩ := statementPatterns_eq_ok.1 hps
    exact ⟨i, hi⟩
  · obtain ⟨i, _, hi, _⟩ := quantityPatterns_eq_ok.1 hps
    exact ⟨i, hi⟩
  · obtain ⟨i, _, hi, _⟩ := timePatterns_eq_ok.1 hps
    exact ⟨i, hi⟩

/-- Without a position no condition is built. -/
theorem Condition.patterns_unset (s : Settings) (c : Condition) (suffix : String) :
    ∃ e, c.patterns s ⟨none, suffix⟩ = .error e := by
  cases h : c.patterns s ⟨none, suffix⟩ with
  | error e => exact ⟨e, rfl⟩
  | ok ps =>
    obtain ⟨i, hi⟩ := Condition.position_of_patterns h
    exact absurd hi (by simp)

/-! ## All conditions -/

/-- A variable of a position, moved to another, is the same word before other digits. -/
theorem Variable.At.moved {v : Variable} {i : Nat} (h : v.At i) (j : Nat) :
    ∃ word : String, v = ⟨word ++ toString i⟩ ∧ v.moved i j = ⟨word ++ toString j⟩ ∧
      ∀ ch ∈ word.toList.getLast?, ch.isDigit = false := by
  obtain ⟨word, hname, hword⟩ := h
  have hv : v = ⟨word ++ toString i⟩ := by
    cases v
    exact congrArg Variable.mk hname
  exact ⟨word, hv, hv ▸ Variable.moved_append i j word, hword⟩

/-- **A position only names variables.**  At the position `j` a condition is refused as it is at the
position `i`, or gives the same patterns with `j` in place of `i` at the end of each variable that
is neither the item nor the reference.  Without a position it is refused. -/
theorem Condition.patterns_moved (s : Settings) (c : Condition) (suffix : String) (i j : Nat) :
    c.patterns s ⟨some j, suffix⟩ =
      (c.patterns s ⟨some i, suffix⟩).map (renameIn (Variable.moved i j)) ∧
    (∀ ps, c.patterns s ⟨some i, suffix⟩ = .ok ps → ∀ v, .var v ∈ collect Pattern.terms ps →
      (v = .item ∨ v = .reference) ∧ v.moved i j = v ∨
      ∃ word : String, v = ⟨word ++ toString i⟩ ∧ v.moved i j = ⟨word ++ toString j⟩ ∧
        ∀ ch ∈ word.toList.getLast?, ch.isDigit = false) ∧
    ∃ e, c.patterns s ⟨none, suffix⟩ = .error e := by
  refine ⟨?_, ?_, Condition.patterns_unset s c suffix⟩
  · rw [Condition.patterns_eq, Condition.patterns_eq]
    cases Family.ofDatatype c.datatype with
    | text => exact textPatterns_moved i j
    | entity => exact entityPatterns_moved i j
    | quantity => exact quantityPatterns_moved i j
    | time => exact timePatterns_moved i j
    | existence => exact existencePatterns_moved i j
  · intro ps hps v hv
    rcases Condition.variables_at rfl hps hv with rfl | rfl | hat
    · exact .inl ⟨.inl rfl, Variable.moved_item i j⟩
    · exact .inl ⟨.inr rfl, Variable.moved_reference i j⟩
    · exact .inr (hat.moved j)

end WikibaseQuery

import WikibaseQuery.Proofs.Positions
import WikibaseQuery.Proofs.Relevance

/-!
# What a constraint on references adds to a condition

A condition that asks for references, or for none, has one test more than the condition that does
not: the last pattern between the braces that the statement stands in.  All but quantities put a
group around these patterns for it.  Nothing else depends on references.

* `Pattern.tests`, `bodiesIn`, `untestedIn` — the tests for existence in patterns, the patterns
  between all of their braces, and the patterns without those tests;
* `StandsOnlyIn` — the one place between braces where a triple stands;
* `Referenced` — how the patterns of a condition depend on references, and `Condition.referenced`;
* `Condition.references_tested` — where the test stands, what it tests, and what is left without it.
-/

namespace WikibaseQuery

/-! ## Tests and braces -/

/-- The tests for existence in an expression: whether they are negated, and what is looked for. -/
def Expression.tests : Expression → List (Bool × List Pattern)
  | .term _ => []
  | .binary _ left right => left.tests ++ right.tests
  | .existence negated patterns => [(negated, patterns)]

/-- The tests for existence in a filter or a binding. -/
def Pattern.tests : Pattern → List (Bool × List Pattern)
  | .filter condition => condition.tests
  | .bind _ value => value.tests
  | _ => []

/-- The lists of patterns that stand between braces of the pattern, apart from those within them. -/
def Pattern.bodies : Pattern → List (List Pattern)
  | .triples _ => []
  | .bind _ value => value.tests.map Prod.snd
  | .filter condition => condition.tests.map Prod.snd
  | .union patterns | .minus patterns | .group patterns | .service _ _ patterns
  | .subquery _ _ patterns _ => [patterns]

/-- The patterns, and the lists of patterns between all braces within them. -/
def bodiesIn (ps : List Pattern) : List (List Pattern) := ps :: collect Pattern.bodies ps

/-- The triples that stand among the patterns, and not within them. -/
def triplesAmong (ps : List Pattern) : List Triple :=
  ps.flatMap fun p => match p with
    | .triples ts => ts
    | _ => []

/-- Among all patterns between braces, `within` are those that the triple stands among. -/
def StandsOnlyIn (t : Triple) (within ps : List Pattern) : Prop :=
  ∀ L, L ∈ bodiesIn ps ∧ t ∈ triplesAmong L ↔ L = within

/-- Whether the pattern is a filter that tests for existence and nothing else. -/
def Pattern.isTest : Pattern → Bool
  | .filter (.existence _ _) => true
  | _ => false

mutual

/-- The pattern without the filters that test for existence.  A group that ends in such a filter is
there for its sake, and goes with it. -/
def Pattern.untested : Pattern → List Pattern
  | .triples ts => [.triples ts]
  | .bind target value => [.bind target value]
  | .filter condition => if (Pattern.filter condition).isTest then [] else [.filter condition]
  | .union arms => [.union (untestedIn arms)]
  | .minus patterns => [.minus (untestedIn patterns)]
  | .group patterns =>
    if patterns.getLast?.any Pattern.isTest then untestedIn patterns
    else [.group (untestedIn patterns)]
  | .service endpoint silent patterns => [.service endpoint silent (untestedIn patterns)]
  | .subquery distinct projection patterns limit =>
    [.subquery distinct projection (untestedIn patterns) limit]

/-- The patterns without the filters that test for existence, and without the groups that are there
for these. -/
def untestedIn : List Pattern → List Pattern
  | [] => []
  | p :: ps => p.untested ++ untestedIn ps

end

/-- No pattern has braces of its own. -/
def Braceless (ps : List Pattern) : Prop := ∀ p ∈ ps, p.bodies = []

section

variable {ps qs : List Pattern}

@[simp] theorem triplesAmong_append :
    triplesAmong (ps ++ qs) = triplesAmong ps ++ triplesAmong qs := List.flatMap_append

theorem untestedIn_append (ps qs : List Pattern) :
    untestedIn (ps ++ qs) = untestedIn ps ++ untestedIn qs := by
  induction ps with
  | nil => rfl
  | cons p ps ih => rw [List.cons_append, untestedIn, untestedIn, ih, List.append_assoc]

theorem seesThrough_tests : SeesThrough Pattern.tests := ⟨fun _ => rfl, fun _ => rfl⟩

/-- Without tests nothing stands within an expression. -/
theorem Expression.nested_of_tests : (e : Expression) → e.tests = [] → e.nested = []
  | .term t, _ => nested_term t
  | .binary operator left right, h => by
    obtain ⟨hleft, hright⟩ := List.append_eq_nil_iff.1 h
    rw [nested_binary, left.nested_of_tests hleft, right.nested_of_tests hright, List.append_nil]
  | .existence negated patterns, h => absurd h (List.cons_ne_nil _ _)

/-- A pattern without braces has nothing within it, tests nothing and stays as it is. -/
theorem Pattern.of_bodies {p : Pattern} (h : p.bodies = []) :
    p.nested = [p] ∧ p.tests = [] ∧ p.untested = [p] := by
  cases p with
  | triples ts => exact ⟨rfl, rfl, rfl⟩
  | bind target value =>
    have htests : value.tests = [] := List.map_eq_nil_iff.1 h
    refine ⟨?_, htests, rfl⟩
    rw [Pattern.nested, value.nested_of_tests htests]
  | filter condition =>
    have htests : condition.tests = [] := List.map_eq_nil_iff.1 h
    refine ⟨?_, htests, ?_⟩
    · rw [Pattern.nested, condition.nested_of_tests htests]
    · cases condition with
      | existence negated patterns => exact absurd htests (List.cons_ne_nil _ _)
      | _ => rfl
  | _ => exact absurd h (List.cons_ne_nil _ _)

theorem Braceless.nestedIn_eq (h : Braceless ps) : nestedIn ps = ps := by
  induction ps with
  | nil => rfl
  | cons p ps ih =>
    obtain ⟨hp, hps⟩ := List.forall_mem_cons.1 h
    rw [nestedIn, (Pattern.of_bodies hp).1, ih hps]
    rfl

theorem Braceless.untestedIn_eq (h : Braceless ps) : untestedIn ps = ps := by
  induction ps with
  | nil => rfl
  | cons p ps ih =>
    obtain ⟨hp, hps⟩ := List.forall_mem_cons.1 h
    rw [untestedIn, (Pattern.of_bodies hp).2.2, ih hps]
    rfl

theorem Braceless.collect_bodies (h : Braceless ps) : collect Pattern.bodies ps = [] := by
  rw [collect, h.nestedIn_eq]
  exact List.flatMap_eq_nil_iff.2 h

theorem Braceless.collect_tests (h : Braceless ps) : collect Pattern.tests ps = [] := by
  rw [collect, h.nestedIn_eq]
  exact List.flatMap_eq_nil_iff.2 fun p hp => (Pattern.of_bodies (h p hp)).2.1

theorem Braceless.append (hps : Braceless ps) (hqs : Braceless qs) : Braceless (ps ++ qs) :=
  List.forall_mem_append.2 ⟨hps, hqs⟩

end

/-! ## The test for references -/

/-- Whether the test for references is negated, where there is one. -/
def References.negated? : References → Option Bool
  | .present => some false
  | .absent => some true
  | .regardless => none

/-- `?statement prov:wasDerivedFrom ?reference` -/
def derivation (n : Namespaces) (statement : Variable) : Triple :=
  ⟨statement, n.provenance "wasDerivedFrom", Variable.reference⟩

/-- The filter that the statement has references, or (`negated`) has none. -/
def referenceTest (n : Namespaces) (negated : Bool) (statement : Variable) : Pattern :=
  .filter (.existence negated [.triples [derivation n statement]])

/-- Patterns that stand beside those of the statement, and have neither its triple nor a test. -/
structure Beside (claim : Triple) (ps : List Pattern) : Prop where
  triples : triplesAmong ps = []
  bodies : ∀ L ∈ collect Pattern.bodies ps, claim ∉ triplesAmong L
  tests : collect Pattern.tests ps = []
  untested : untestedIn ps = ps
  group : ∀ L, .group L ∉ nestedIn ps

/-- The patterns `ps` of a condition with a constraint on references, and the patterns `plain` of the
condition without it. -/
inductive Referenced (n : Namespaces) (claim : Triple) (statement : Variable) (negate : Bool)
    (references : References) : (grouped : Bool) → (ps plain : List Pattern) → Prop
  /-- The test comes last. -/
  | loose (core : List Pattern) : Braceless core → claim ∈ triplesAmong core →
      Referenced n claim statement negate references false
        (negateIf negate (core ++ referenceFilter n references statement)) (negateIf negate core)
  /-- The test comes last in a group, and other patterns may come after the group. -/
  | grouped (core others : List Pattern) : Braceless core → claim ∈ triplesAmong core →
      Beside claim others →
      Referenced n claim statement negate references true
        (negateIf negate (withReferences n references statement core) ++ others)
        (negateIf negate core ++ others)

section

variable {n : Namespaces} {claim : Triple} {statement : Variable} {negate negated : Bool}
  {references : References} {core others : List Pattern}

theorem referenceFilter_eq :
    referenceFilter n references statement =
      references.negated?.toList.map (referenceTest n · statement) := by
  cases references <;> rfl

theorem referenceFilter_regardless : referenceFilter n .regardless statement = [] := rfl

theorem withReferences_eq :
    withReferences n references statement core =
      match references.negated? with
      | none => core
      | some negated => [.group (core ++ [referenceTest n negated statement])] := by
  cases references <;> rfl

theorem Beside.nil : Beside claim [] := ⟨rfl, by simp, rfl, rfl, by simp [nestedIn]⟩

theorem Braceless.not_mem_group (h : Braceless core) (L : List Pattern) : .group L ∉ core :=
  fun hmem => absurd (h _ hmem) (List.cons_ne_nil _ _)

@[simp] theorem untestedIn_negateIf (ps : List Pattern) :
    untestedIn (negateIf negate ps) = negateIf negate (untestedIn ps) := by
  cases negate <;> rfl

/-- The lists between braces when everything may be taken away, with other patterns beside it. -/
theorem mem_bodiesIn_negateIf {L ps : List Pattern} :
    L ∈ bodiesIn (negateIf negate ps ++ others) ↔
      L = negateIf negate ps ++ others ∨ negate = true ∧ L = ps ∨
        L ∈ collect Pattern.bodies ps ∨ L ∈ collect Pattern.bodies others := by
  cases negate <;> simp [bodiesIn, negateIf, Pattern.bodies]

theorem Braceless.bodies_tested (h : Braceless core) :
    collect Pattern.bodies (core ++ [referenceTest n negated statement]) =
      [[.triples [derivation n statement]]] := by
  rw [collect_append, h.collect_bodies]
  rfl

/-- Removing the test leaves the patterns without the constraint. -/
theorem Referenced.untestedIn_eq {grouped : Bool} {ps plain : List Pattern}
    (h : Referenced n claim statement negate references grouped ps plain) :
    untestedIn ps = plain := by
  cases h with
  | loose core hcore hclaim =>
    rw [untestedIn_negateIf, untestedIn_append, hcore.untestedIn_eq]
    cases references <;> simp [referenceFilter, untestedIn, Pattern.untested, Pattern.isTest]
  | grouped core others hcore hclaim hothers =>
    rw [untestedIn_append, untestedIn_negateIf, hothers.untested, withReferences_eq]
    cases references.negated? with
    | none => rw [hcore.untestedIn_eq]
    | some negated =>
      have hlast : (core ++ [referenceTest n negated statement]).getLast?.any Pattern.isTest := by
        simp [referenceTest, Pattern.isTest]
      have hgroup : untestedIn [.group (core ++ [referenceTest n negated statement])] = core := by
        rw [untestedIn, Pattern.untested, if_pos hlast, untestedIn_append, hcore.untestedIn_eq]
        simp [untestedIn, Pattern.untested, referenceTest, Pattern.isTest]
      simp only [hgroup]

/-- There is one test where references matter, and none where they do not. -/
theorem Referenced.tests_eq {grouped : Bool} {ps plain : List Pattern}
    (h : Referenced n claim statement negate references grouped ps plain) :
    collect Pattern.tests ps =
      references.negated?.toList.map fun negated =>
        (negated, [.triples [derivation n statement]]) := by
  have hfilter : collect Pattern.tests (referenceFilter n references statement) =
      references.negated?.toList.map fun negated =>
        (negated, [.triples [derivation n statement]]) := by
    cases references <;> rfl
  cases h with
  | loose core hcore hclaim =>
    rw [collect_negateIf seesThrough_tests, collect_append, hcore.collect_tests, hfilter,
      List.nil_append]
  | grouped core others hcore hclaim hothers =>
    rw [collect_append, collect_negateIf seesThrough_tests,
      collect_withReferences seesThrough_tests, hcore.collect_tests, hothers.tests, hfilter,
      List.nil_append, List.append_nil]

section

variable (hcore : Braceless core) (hmem : claim ∈ triplesAmong core)
  (hclaim : claim ≠ derivation n statement)
include hcore hmem hclaim

theorem standsOnlyIn_loose :
    StandsOnlyIn claim (core ++ [referenceTest n negated statement])
      (negateIf negate (core ++ [referenceTest n negated statement])) := by
  intro L
  rw [← List.append_nil (negateIf negate _), mem_bodiesIn_negateIf, hcore.bodies_tested]
  constructor
  · rintro ⟨rfl | ⟨-, rfl⟩ | hL | hL, hin⟩
    -- unless they are taken away, the patterns themselves are the list that ends in the test
    · cases negate with
      | false => exact List.append_nil _
      | true => exact absurd hin List.not_mem_nil
    · rfl
    · rw [List.mem_singleton.1 hL] at hin
      exact absurd (List.mem_singleton.1 hin) hclaim
    · exact absurd hL List.not_mem_nil
  · rintro rfl
    refine ⟨?_, by simp [hmem]⟩
    cases negate with
    | false => exact .inl (List.append_nil _).symm
    | true => exact .inr (.inl ⟨rfl, rfl⟩)

theorem standsOnlyIn_grouped (hothers : Beside claim others) :
    StandsOnlyIn claim (core ++ [referenceTest n negated statement])
      (negateIf negate [.group (core ++ [referenceTest n negated statement])] ++ others) := by
  intro L
  rw [mem_bodiesIn_negateIf, collect_group, hcore.bodies_tested]
  constructor
  · rintro ⟨rfl | ⟨-, rfl⟩ | hL | hL, hin⟩
    · rw [triplesAmong_append, hothers.triples] at hin
      cases negate <;> exact absurd hin List.not_mem_nil
    · exact absurd hin List.not_mem_nil
    · rcases List.mem_pair.1 hL with rfl | rfl
      · rfl
      · exact absurd (List.mem_singleton.1 hin) hclaim
    · exact absurd hin (hothers.bodies L hL)
  · rintro rfl
    exact ⟨.inr (.inr (.inl List.mem_cons_self)), by simp [hmem]⟩

end

/-- The triple of the statement stands in one place between braces only, and the test stands last
there. -/
theorem Referenced.ends_in_test {grouped : Bool} {ps plain : List Pattern}
    (h : Referenced n claim statement negate references grouped ps plain)
    (hclaim : claim ≠ derivation n statement) (hnegated : references.negated? = some negated) :
    ∃ found,
      StandsOnlyIn claim (found ++ [referenceTest n negated statement]) ps ∧
      (.group (found ++ [referenceTest n negated statement]) ∈ nestedIn ps ↔ grouped = true) := by
  cases h with
  | loose core hcore hmem =>
    have hfilter : referenceFilter n references statement =
        [referenceTest n negated statement] := by
      rw [referenceFilter_eq, hnegated]
      rfl
    rw [hfilter]
    refine ⟨core, standsOnlyIn_loose hcore hmem hclaim, ?_⟩
    have hnone := hcore.not_mem_group (core ++ [referenceTest n negated statement])
    unfold referenceTest at hnone ⊢
    cases negate <;>
      simp [negateIf, nestedIn, Pattern.nested, Expression.nested, nestedIn_append,
        hcore.nestedIn_eq, hnone]
  | grouped core others hcore hmem hothers =>
    rw [withReferences_eq, hnegated]
    refine ⟨core, standsOnlyIn_grouped hcore hmem hclaim hothers, ?_⟩
    cases negate <;> simp [negateIf, nestedIn, Pattern.nested]

end

/-! ## Conditions -/

section

variable {s : Settings} {n : Namespaces} {c : Condition} {scope : Scope} {i : Nat}
  {ps core : List Pattern}

theorem braceless_triples (ts : List Triple) : Braceless [.triples ts] := by
  rintro _ (_ | ⟨_, ⟨⟩⟩)
  rfl

theorem braceless_comparison {left right : Expression} (operator : Operator)
    (hleft : left.tests = []) (hright : right.tests = []) :
    Braceless [.comparison left operator right] := by
  simp [Braceless, Pattern.comparison, Pattern.bodies, Expression.tests, hleft, hright]

/-- The exclusion of a value has a path where the triple of the statement has an IRI. -/
theorem beside_excludeValue (property : String) (statement : Variable) (value : Term)
    (tail : List Path) :
    Beside (claimTriple n property statement) (excludeValue n c value tail) := by
  unfold excludeValue
  split
  · refine ⟨rfl, fun L hL hin => ?_, rfl, rfl, by simp [nestedIn, Pattern.nested, Pattern.triple]⟩
    rw [List.mem_singleton.1 hL] at hin
    have heq := congrArg Triple.predicate (List.mem_singleton.1 hin)
    exact absurd heq (by simp [claimTriple, Path.sequence])
  · exact ⟨rfl, by simp, rfl, rfl, by simp [nestedIn]⟩

/-- A condition on a statement by a term has no other patterns. -/
theorem StatementKind.patterns_eq {relation : Relation} {value : Term} {tail : List Path}
    (kind : StatementKind s c scope.suffix relation value tail) :
    c.patterns s scope =
      statementPatterns s.namespaces { c with relation } scope value tail := by
  rw [Condition.patterns_eq]
  cases kind with
  | text hf hv =>
    rw [hf]
    change textPatterns s c scope = statementPatterns s.namespaces c scope _ []
    rw [textPatterns, hv]
  | entity hf hv htail =>
    rw [hf]
    change entityPatterns s c scope = statementPatterns s.namespaces c scope _ tail
    rw [entityPatterns, hv]
    simp only [htail]
    rfl
  | anyEntity hf hr =>
    rw [hf, ← hr]
    exact entityPatterns_regardless hr
  | existence hf hless hmore =>
    have hr : c.relation ∈ [.matching, .notMatching, .regardless] := by
      cases hrelation : c.relation <;> simp_all
    rw [hf]
    exact existencePatterns_eq hr

/-- Quantities are of another kind. -/
theorem StatementKind.ne_quantity {suffix : String} {relation : Relation} {value : Term}
    {tail : List Path} (kind : StatementKind s c suffix relation value tail) :
    c.datatype ≠ .quantity := by
  intro hd
  cases kind <;> simp_all [Family.ofDatatype]

theorem StatementKind.referenced {suffix : String} {relation : Relation} {value : Term}
    {tail : List Path} (references : References)
    (kind : StatementKind s c suffix relation value tail) :
    StatementKind s { c with references } suffix relation value tail := by
  cases kind with
  | text hf hv => exact .text hf hv
  | entity hf hv htail => exact .entity hf hv htail
  | anyEntity hf hr => exact .anyEntity hf hr
  | existence hf hless hmore => exact .existence hf hless hmore

theorem TimeCore.referenced (references : References) (h : TimeCore n c i core) :
    TimeCore n { c with references } i core := by
  cases h with
  | anyInstant hr => exact .anyInstant hr
  | day hr hv hpattern => exact .day hr hv hpattern
  | interval hr hv hfollowing hpattern => exact .interval hr hv hfollowing hpattern

theorem TimeCore.braceless (h : TimeCore n c i core) : Braceless core := by
  have hvalue : Braceless (statementValuePatterns n c.property i) :=
    (braceless_triples _).append (braceless_triples _)
  cases h with
  | anyInstant hr => exact hvalue.append (braceless_triples _)
  | day hr hv hpattern =>
    refine hvalue.append ((braceless_triples _).append ?_)
    rcases dayPattern_cases hpattern with rfl | ⟨operator, rfl⟩
    · simp [Braceless, Pattern.bodies, Expression.tests]
    · exact braceless_comparison operator rfl rfl
  | @interval _ _ number _ hr hv hfollowing hpattern =>
    have hprecision : Braceless (precisionPatterns n number i) :=
      (braceless_triples _).append ((braceless_triples _).append (braceless_comparison _ rfl rfl))
    refine (hvalue.append hprecision).append
      ((braceless_triples _).append ((braceless_triples _).append ?_))
    rcases intervalPattern_cases hpattern with ⟨before, operator, after, rfl⟩ | rfl | rfl
    all_goals exact braceless_comparison _ rfl rfl

theorem TimeCore.claim_mem (h : TimeCore n c i core) :
    claimTriple n c.property (.underscored "statement" i) ∈ triplesAmong core := by
  cases h <;> simp [statementValuePatterns, triplesAmong]

theorem braceless_amountFilter (relation : Relation) (amount : Variable) {other : Expression}
    (hother : other.tests = []) : Braceless (amountFilter relation amount other) := by
  unfold amountFilter
  split
  · exact braceless_comparison _ rfl hother
  · simp [Braceless]

theorem plainAmountPatterns_references (amount : Option Binary64) :
    plainAmountPatterns n c amount i =
      plainAmountPatterns n { c with references := .regardless } amount i ++
        referenceFilter n c.references (.numbered "statement" i) := by
  simp only [plainAmountPatterns, referenceFilter_regardless, List.append_nil, List.cons_append]

theorem convertedAmountPatterns_references (conversion : String) (amount : Binary64)
    (unit : String) :
    convertedAmountPatterns n conversion c amount unit i =
      convertedAmountPatterns n conversion { c with references := .regardless } amount unit i ++
        referenceFilter n c.references (.numbered "statement" i) := by
  simp only [convertedAmountPatterns, referenceFilter_regardless, List.append_nil,
    List.append_assoc]

theorem QuantityCore.braceless (h : QuantityCore s c i core) (hr : c.references = .regardless) :
    Braceless core := by
  have hfilter (statement : Variable) :
      Braceless (referenceFilter s.namespaces c.references statement) := by
    simp [Braceless, hr, referenceFilter_regardless]
  cases h with
  | anyAmount _ => exact (braceless_triples _).append (hfilter _)
  | plain _ _ =>
    exact (braceless_triples _).append ((braceless_amountFilter _ _ rfl).append (hfilter _))
  | converted _ _ _ =>
    refine Braceless.append ?_ ((braceless_amountFilter _ _ rfl).append (hfilter _))
    simp [Braceless, Pattern.bodies, Expression.tests]

theorem QuantityCore.claim_mem (h : QuantityCore s c i core) :
    claimTriple s.namespaces c.property (.numbered "statement" i) ∈ triplesAmong core := by
  cases h <;> simp [plainAmountPatterns, convertedAmountPatterns, triplesAmong]

/-- The test for references is the last pattern of a quantity. -/
theorem QuantityCore.referenced (h : QuantityCore s c i core) :
    ∃ plain, QuantityCore s { c with references := .regardless } i plain ∧
      core = plain ++ referenceFilter s.namespaces c.references (.numbered "statement" i) := by
  cases h with
  | anyAmount hr => exact ⟨_, .anyAmount hr, plainAmountPatterns_references _⟩
  | plain hr hv => exact ⟨_, .plain hr hv, plainAmountPatterns_references _⟩
  | converted hr hv hs => exact ⟨_, .converted hr hv hs, convertedAmountPatterns_references _ _ _⟩

end

namespace Condition

/-- The variable of the statement that the condition at a position is about. -/
def statement (c : Condition) (i : Nat) : Variable :=
  if c.datatype = .time then .underscored "statement" i else .numbered "statement" i

variable {s : Settings} {c : Condition} {scope : Scope} {i : Nat} {ps : List Pattern}

theorem statement_at (c : Condition) (i : Nat) : (c.statement i).At i := by
  unfold statement
  split
  · exact Variable.at_underscored _
  · exact Variable.at_numbered (by decide)

/-- The patterns of a condition are those of the condition without its constraint on references, and
the test for it. -/
theorem referenced (hi : scope.position = some i) (h : c.patterns s scope = .ok ps) :
    ∃ plain, { c with references := .regardless }.patterns s scope = .ok plain ∧
      Referenced s.namespaces (claimTriple s.namespaces c.property (c.statement i))
        (c.statement i) c.negate c.references (c.datatype ≠ .quantity) ps plain := by
  rcases patterns_cases h with ⟨relation, value, tail, kind, hps⟩ | ⟨hd, hps⟩ | ⟨hd, hps⟩
  -- the inversion of each kind is an equivalence, and is used again where references do not matter
  · obtain ⟨j, object, path, hj, hobject, rfl⟩ := statementPatterns_eq_ok.1 hps
    obtain rfl : i = j := Option.some.inj (hi.symm.trans hj)
    have hgrouped : decide (c.datatype ≠ .quantity) = true := by simp [kind.ne_quantity]
    have hstatement : c.statement i = .numbered "statement" i := if_neg kind.ne_time
    rw [hgrouped, hstatement, (kind.referenced .regardless).patterns_eq]
    refine ⟨_, statementPatterns_eq_ok.2 ⟨i, object, path, hi, hobject, rfl⟩, ?_⟩
    exact .grouped _ _ (braceless_triples _) List.mem_cons_self (beside_excludeValue _ _ _ _)
  · obtain ⟨j, core, hj, hcore, rfl⟩ := quantityPatterns_eq_ok.1 hps
    obtain rfl : i = j := Option.some.inj (hi.symm.trans hj)
    obtain ⟨plain, hplain, rfl⟩ := hcore.referenced
    have hgrouped : decide (c.datatype ≠ .quantity) = false := by simp [hd]
    have hstatement : c.statement i = .numbered "statement" i := if_neg (by simp [hd])
    have hf : Family.ofDatatype c.datatype = .quantity := congrArg Family.ofDatatype hd
    rw [hgrouped, hstatement, patterns_eq]
    refine ⟨negateIf c.negate plain, ?_, .loose _ (hplain.braceless rfl) hplain.claim_mem⟩
    simp only [hf]
    exact quantityPatterns_eq_ok.2 ⟨i, plain, hi, hplain, rfl⟩
  · obtain ⟨j, core, hj, hcore, rfl⟩ := timePatterns_eq_ok.1 hps
    obtain rfl : i = j := Option.some.inj (hi.symm.trans hj)
    have hgrouped : decide (c.datatype ≠ .quantity) = true := by simp [hd]
    have hstatement : c.statement i = .underscored "statement" i := if_pos hd
    have hf : Family.ofDatatype c.datatype = .time := congrArg Family.ofDatatype hd
    rw [hgrouped, hstatement, patterns_eq, ← List.append_nil (negateIf _ _)]
    refine ⟨negateIf c.negate core ++ [], ?_, .grouped _ _ hcore.braceless hcore.claim_mem .nil⟩
    simp only [hf]
    exact timePatterns_eq_ok.2 ⟨i, core, hi, hcore.referenced .regardless, List.append_nil _⟩

/-- **The constraint on references.**  Where references matter, a condition has one test for them, and
none otherwise.  The test is for the statement of the condition, and stands last among the patterns
where that statement is found; these are a group for its sake, except those of a quantity.  Without
the test and this group, the patterns are those of the condition where references do not matter. -/
theorem references_tested (hi : scope.position = some i) (h : c.patterns s scope = .ok ps) :
    { c with references := .regardless }.patterns s scope = .ok (untestedIn ps) ∧
    collect Pattern.tests ps = c.references.negated?.toList.map (fun negated =>
      (negated, [.triples [derivation s.namespaces (c.statement i)]])) ∧
    ∀ negated ∈ c.references.negated?, ∃ found,
      StandsOnlyIn ⟨Variable.item, s.namespaces.claim c.property, c.statement i⟩
        (found ++ [referenceTest s.namespaces negated (c.statement i)]) ps ∧
      (.group (found ++ [referenceTest s.namespaces negated (c.statement i)]) ∈ nestedIn ps ↔
        c.datatype ≠ .quantity) := by
  obtain ⟨plain, hplain, hreferenced⟩ := referenced hi h
  have hclaim : claimTriple s.namespaces c.property (c.statement i) ≠
      derivation s.namespaces (c.statement i) := by
    intro heq
    have hitem : Variable.item = c.statement i := by
      simpa [claimTriple, derivation] using congrArg Triple.subject heq
    exact Variable.not_at_item (hitem ▸ c.statement_at i)
  refine ⟨?_, hreferenced.tests_eq, fun negated hnegated => ?_⟩
  · rw [hreferenced.untestedIn_eq]
    exact hplain
  · obtain ⟨found, hfound, hgroup⟩ := hreferenced.ends_in_test hclaim hnegated
    exact ⟨found, hfound, hgroup.trans decide_eq_true_iff⟩

/-- Items with a text under `P1` that is not "a" and has no references, ruled out. -/
def unreferencedText : Condition :=
  ⟨"P1", .string, .text "a", .notMatching, .absent, false, true, none⟩

/-- The test stands within what is taken away, and the exclusion of the text does not. -/
theorem references_tested_unreferencedText :
    ∃ ps, unreferencedText.patterns {} ⟨some 0, ""⟩ = .ok ps ∧
      { unreferencedText with references := .regardless }.patterns {} ⟨some 0, ""⟩ =
        .ok (untestedIn ps) ∧
      collect Pattern.tests ps = [(true, [.triples [derivation {} ⟨"statement0"⟩]])] ∧
      ∃ found, StandsOnlyIn
          ⟨.var ⟨"item"⟩, .iri ⟨"http://www.wikidata.org/prop/P1"⟩, .var ⟨"statement0"⟩⟩
          (found ++ [referenceTest {} true ⟨"statement0"⟩]) ps ∧
        .group (found ++ [referenceTest {} true ⟨"statement0"⟩]) ∈ nestedIn ps := by
  have hstatement : unreferencedText.statement 0 = ⟨"statement0"⟩ := by decide
  have hi : (⟨some 0, ""⟩ : Scope).position = some 0 := rfl
  obtain ⟨hplain, htests, hlast⟩ :=
    references_tested (s := {}) hi (Eq.refl (unreferencedText.patterns {} ⟨some 0, ""⟩))
  rw [hstatement] at htests hlast
  obtain ⟨found, hfound, hgroup⟩ := hlast true rfl
  exact ⟨_, rfl, hplain, htests, found, hfound, hgroup.2 (by decide)⟩

end Condition

end WikibaseQuery

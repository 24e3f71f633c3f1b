import WikibaseQuery.Proofs.Assembly

/-!
# Where patterns take solutions away

A pattern that takes solutions away has an effect only where another pattern has found some before
it.  This file says for every query whether that is so at the top level of its patterns.

* `Condition.signed` — the patterns of a condition begin with the sign of the condition, and all
  those of a negated one take solutions away;
* `Query.all_isMinus_body` — when all patterns of a query take solutions away, which is when the
  pattern for any item comes first;
* `Query.grounded_iff` — the only queries in which a pattern takes away from nothing are those that
  begin with a negated condition and ask for something later on.
-/

namespace WikibaseQuery

/-- Whatever takes solutions away comes after a pattern that does not. -/
def Grounded (ps : List Pattern) : Prop :=
  ∀ before p after, ps = before ++ p :: after → p.isMinus = true →
    ∃ b ∈ before, b.isMinus = false

/-- All depends on the first pattern. -/
theorem grounded_cons {p : Pattern} {ps : List Pattern} :
    Grounded (p :: ps) ↔ p.isMinus = false := by
  constructor
  · intro h
    cases hp : p.isMinus with
    | false => rfl
    | true =>
      obtain ⟨b, hb, -⟩ := h [] p ps rfl hp
      exact absurd hb (List.not_mem_nil)
  · intro hp before q after heq hq
    cases before with
    | nil =>
      rw [List.nil_append, List.cons.injEq] at heq
      rw [heq.1, hq] at hp
      exact absurd hp (by simp)
    | cons b before =>
      rw [List.cons_append, List.cons.injEq] at heq
      exact ⟨p, by rw [heq.1]; exact List.mem_cons_self .., hp⟩

/-! ## The sign of a condition -/

/-- Patterns that begin with a sign; after a negative one, all of them take solutions away. -/
structure Signed (negate : Bool) (ps : List Pattern) : Prop where
  head : ∃ p rest, ps = p :: rest ∧ p.isMinus = negate
  all : negate = true → ps.all Pattern.isMinus = true

/-- Negation gives patterns their sign. -/
theorem signed_negateIf (negate : Bool) {core : List Pattern}
    (hcore : ∃ p rest, core = p :: rest ∧ p.isMinus = false) :
    Signed negate (negateIf negate core) := by
  cases negate with
  | false => exact ⟨hcore, fun h => absurd h (by simp)⟩
  | true => exact ⟨⟨.minus core, [], rfl, rfl⟩, fun _ => rfl⟩

/-- Patterns that only take away do not change the sign of those before them. -/
theorem Signed.append {negate : Bool} {ps added : List Pattern} (h : Signed negate ps)
    (hadded : added.all Pattern.isMinus = true) : Signed negate (ps ++ added) := by
  obtain ⟨p, rest, rfl, hp⟩ := h.head
  refine ⟨⟨p, rest ++ added, rfl, hp⟩, fun hn => ?_⟩
  rw [List.all_append, h.all hn, hadded]
  rfl

theorem head_withReferences (n : Namespaces) (references : References) (statement : Variable)
    {core : List Pattern} (hcore : ∃ p rest, core = p :: rest ∧ p.isMinus = false) :
    ∃ p rest, withReferences n references statement core = p :: rest ∧ p.isMinus = false := by
  cases references with
  | regardless => exact hcore
  | present => exact ⟨_, [], rfl, rfl⟩
  | absent => exact ⟨_, [], rfl, rfl⟩

theorem all_isMinus_excludeValue (n : Namespaces) (c : Condition) (value : Term)
    (tail : List Path) : (excludeValue n c value tail).all Pattern.isMinus = true := by
  unfold excludeValue
  split <;> rfl

theorem QuantityCore.head {s : Settings} {c : Condition} {i : Nat} {core : List Pattern}
    (h : QuantityCore s c i core) : ∃ p rest, core = p :: rest ∧ p.isMinus = false := by
  cases h with
  | anyAmount => exact ⟨_, _, rfl, rfl⟩
  | plain => exact ⟨_, _, rfl, rfl⟩
  | converted => exact ⟨_, _, rfl, rfl⟩

theorem TimeCore.head {n : Namespaces} {c : Condition} {i : Nat} {core : List Pattern}
    (h : TimeCore n c i core) : ∃ p rest, core = p :: rest ∧ p.isMinus = false := by
  cases h with
  | anyInstant => exact ⟨_, _, rfl, rfl⟩
  | day => exact ⟨_, _, rfl, rfl⟩
  | interval => exact ⟨_, _, rfl, rfl⟩

/-- **The sign of a condition.**  Its patterns begin with one that takes solutions away exactly if
it is negated, and then all of them do. -/
theorem Condition.signed {s : Settings} {c : Condition} {scope : Scope} {ps : List Pattern}
    (h : c.patterns s scope = .ok ps) : Signed c.negate ps := by
  rcases Condition.patterns_cases h with ⟨relation, value, tail, -, hps⟩ | ⟨-, hps⟩ | ⟨-, hps⟩
  · obtain ⟨i, object, path, -, -, rfl⟩ := statementPatterns_eq_ok.1 hps
    have hlink := head_withReferences s.namespaces c.references (.numbered "statement" i)
      ⟨statementLink s.namespaces c.property i path object, [], rfl, rfl⟩
    exact (signed_negateIf c.negate hlink).append (all_isMinus_excludeValue _ _ _ _)
  · obtain ⟨i, core, -, hcore, rfl⟩ := quantityPatterns_eq_ok.1 hps
    exact signed_negateIf c.negate hcore.head
  · obtain ⟨i, core, -, hcore, rfl⟩ := timePatterns_eq_ok.1 hps
    exact signed_negateIf c.negate (head_withReferences _ _ _ hcore.head)

/-! ## The sign of a query -/

namespace Query

variable {s : Settings} {q : Query} {built : Condition × Nat → List Pattern}

theorem Builds.signed (h : q.Builds s built) {m : Condition × Nat}
    (hm : m ∈ q.conditions.zipIdx) : Signed m.1.negate (built m) :=
  Condition.signed (h m hm)

/-- All patterns take solutions away exactly if all conditions are negated and none of them is an
alternative to another. -/
theorem all_isMinus_body (h : q.Builds s built) :
    (q.body built).all Pattern.isMinus = true ↔
      ∀ c ∈ q.conditions, c.negate = true ∧ c.isOr = false := by
  rw [body, List.all_flatMap, List.all_eq_true]
  constructor
  · intro hall c hc
    obtain ⟨i, hm⟩ : ∃ i, (c, i) ∈ q.conditions.zipIdx := by
      obtain ⟨i, hi, rfl⟩ := List.mem_iff_getElem.1 hc
      exact ⟨i, by simp [List.mem_zipIdx_iff_getElem?, hi]⟩
    rw [← flatMap_members_tree] at hm
    obtain ⟨e, he, hme⟩ := List.mem_flatMap.1 hm
    cases e with
    | single m =>
      rw [Element.members, List.mem_singleton] at hme
      subst hme
      refine ⟨?_, isOr_of_single_mem _ (map_fst_mem_grouping he)⟩
      obtain ⟨p, rest, hps, hp⟩ :=
        (h.signed (mem_zipIdx_of_mem_tree he (List.mem_singleton_self _))).head
      have hall := hall _ he
      simp only [Element.map, Element.patterns, hps, List.all_cons, Bool.and_eq_true] at hall
      rw [← hp]
      exact hall.1
    | group ms =>
      exact absurd (hall _ he) (by simp [Element.map, Element.patterns, Pattern.isMinus])
  · intro hall e he
    have hsingle := map_fst_mem_grouping he
    rw [grouping_eq_map_single _ (fun c hc => (hall c hc).2)] at hsingle
    obtain ⟨c, hc, heq⟩ := List.mem_map.1 hsingle
    cases e with
    | single m =>
      obtain rfl : c = m.1 := by simpa [Element.map] using heq
      exact (h.signed (mem_zipIdx_of_mem_tree he (List.mem_singleton_self _))).all (hall _ hc).1
    | group ms => exact absurd heq (by simp [Element.map])

/-- The first pattern takes solutions away exactly if the first condition is negated and not one of
several alternatives. -/
theorem head_body (h : q.Builds s built) {c : Condition} {cs : List Condition}
    (hq : q.conditions = c :: cs) :
    ∃ p rest, q.body built = p :: rest ∧
      (p.isMinus = true ↔
        c.negate = true ∧ c.isOr = false ∧ ∀ d ∈ cs.head?, d.isOr = false) := by
  have htree : q.tree = (firstElement Condition.isOr c cs).number 0 ::
      numbered (firstElement Condition.isOr c cs).members.length
        (grouping Condition.isOr (cs.dropWhile Condition.isOr)) := by
    rw [tree, hq, grouping_cons, numbered, Nat.zero_add]
  have hmem : (c, 0) ∈ q.conditions.zipIdx := by
    rw [hq, List.zipIdx_cons]
    exact List.mem_cons_self ..
  rw [body, htree, List.flatMap_cons, firstElement]
  split
  · rename_i halone
    rw [takeWhile_eq_nil] at halone
    obtain ⟨p, rest, hps, hp⟩ := (h.signed hmem).head
    have hfirst : (((Element.single c).number 0).map built).patterns = p :: rest := hps
    rw [hfirst, List.cons_append]
    refine ⟨p, _, rfl, ?_⟩
    rw [hp]
    exact ⟨fun hn => ⟨hn, halone⟩, fun hn => hn.1⟩
  · rename_i halone
    rw [takeWhile_eq_nil] at halone
    refine ⟨_, _, rfl, ?_⟩
    exact ⟨fun hp => absurd hp (by simp [Pattern.isMinus]), fun hn => absurd hn.2 halone⟩

/-- The query begins with a negated condition that is not one of several alternatives, and has
another condition that is not negated or is an alternative. -/
def OpensNegated (q : Query) : Prop :=
  ∃ c cs, q.conditions = c :: cs ∧ c.negate = true ∧ c.isOr = false ∧
    (∀ d ∈ cs.head?, d.isOr = false) ∧ ∃ d ∈ cs, d.negate = false ∨ d.isOr = true

theorem grounded_withAnyItem_body (h : q.Builds s built) :
    Grounded (withAnyItem s.namespaces (q.body built)) ↔ ¬ q.OpensNegated := by
  unfold withAnyItem
  split
  · rename_i hall
    rw [all_isMinus_body h] at hall
    refine ⟨fun _ => ?_, fun _ => grounded_cons.2 rfl⟩
    rintro ⟨c, cs, hq, -, -, -, d, hd, hwanted⟩
    obtain ⟨hn, ho⟩ := hall d (by rw [hq]; exact List.mem_cons_of_mem _ hd)
    rcases hwanted with hw | hw
    · exact absurd hw (by simp [hn])
    · exact absurd hw (by simp [ho])
  · rename_i hall
    rw [all_isMinus_body h] at hall
    cases hq : q.conditions with
    | nil =>
      rw [hq] at hall
      exact absurd (fun c hc => absurd hc (List.not_mem_nil)) hall
    | cons c cs =>
      obtain ⟨p, rest, hbody, hp⟩ := head_body h hq
      rw [hbody, grounded_cons, ← Bool.not_eq_true, hp, not_iff_not]
      constructor
      · rintro ⟨hn, ho, hrun⟩
        refine ⟨c, cs, hq, hn, ho, hrun, ?_⟩
        by_contra hnone
        refine hall fun d hd => ?_
        rw [hq] at hd
        rcases List.mem_cons.1 hd with rfl | hd
        · exact ⟨hn, ho⟩
        · refine ⟨?_, ?_⟩
          · exact Bool.of_not_eq_false fun hw => hnone ⟨d, hd, .inl hw⟩
          · exact Bool.of_not_eq_true fun hw => hnone ⟨d, hd, .inr hw⟩
      · rintro ⟨c', cs', hq', hn, ho, hrun, -⟩
        rw [hq, List.cons.injEq] at hq'
        obtain ⟨rfl, rfl⟩ := hq'
        exact ⟨hn, ho, hrun⟩

/-- **Where a query takes away from nothing.**  In the query for the items, whatever takes solutions
away comes after a pattern that does not, unless the query begins with a negated condition that is
not one of several alternatives, and another condition is not negated or is an alternative. -/
theorem grounded_iff {answer : SelectQuery} (h : q.compile s = .ok answer) :
    ∃ items, answer = (if q.omitLabels then items else withLabels s items) ∧
      (Grounded items.patterns ↔ ¬ q.OpensNegated) := by
  obtain ⟨items, hitems, hanswer⟩ := compile_eq_ok.1 h
  obtain ⟨built, hbuilt, rfl⟩ := compileItems_eq_ok.1 hitems
  exact ⟨_, hanswer, grounded_withAnyItem_body hbuilt⟩

/-- Two conditions on texts: items are asked for or ruled out by "a" under `P1`, and then by "b"
under `P2`. -/
def twoTexts (negateFirst negateSecond : Bool) : Query where
  conditions :=
    [ ⟨"P1", .string, .text "a", .matching, .regardless, false, negateFirst, none⟩,
      ⟨"P2", .string, .text "b", .matching, .regardless, false, negateSecond, some .and⟩ ]
  limit := none
  omitLabels := true

/-- What is ruled out after what is asked for is taken away from it. -/
theorem grounded_twoTexts :
    ∃ answer, (twoTexts false true).compile {} = .ok answer ∧
      ∃ items, answer = (if (twoTexts false true).omitLabels then items else withLabels {} items) ∧
        (Grounded items.patterns ↔ ¬ (twoTexts false true).OpensNegated) :=
  ⟨_, rfl, grounded_iff rfl⟩

/-- What is ruled out before anything is asked for is taken away from nothing. -/
theorem not_grounded_twoTexts :
    ∃ answer, (twoTexts true false).compile {} = .ok answer ∧
      ∃ items, answer = (if (twoTexts true false).omitLabels then items else withLabels {} items) ∧
        ¬ Grounded items.patterns :=
  ⟨_, rfl, _, rfl, fun h => absurd (grounded_cons.1 h) (by decide)⟩

end Query

end WikibaseQuery

import WikibaseQuery.Proofs.Nesting
import WikibaseQuery.Proofs.Subtraction

/-!
# Where alternatives take solutions away

An arm of a union is evaluated on its own, so whatever takes solutions away in it needs a pattern
before it in the same arm.  This file says for every query whether all arms have one.

* `Condition.collect_alternatives` — conditions have no alternatives of their own;
* `Query.mem_alternatives_body` — the alternatives of a query are those of its groups;
* `Query.armsFounded_iff` — every arm begins with a pattern that finds something exactly if no
  condition of a group is negated.
-/

namespace WikibaseQuery

/-- Before anything is taken away there is a pattern that does not take away. -/
def Founded (ps : List Pattern) : Prop := ps.takeWhile (fun p => !p.isMinus) ≠ []

/-- All depends on the first pattern. -/
theorem founded_cons {p : Pattern} {ps : List Pattern} :
    Founded (p :: ps) ↔ p.isMinus = false := by
  unfold Founded
  cases h : p.isMinus <;> simp [h]

namespace Pattern

/-- The arms of a union. -/
def alternatives : Pattern → List (List Pattern)
  | union arms => [arms]
  | _ => []

/-- The patterns of an arm. -/
def armPatterns : Pattern → List Pattern
  | group ps => ps
  | p => [p]

end Pattern

/-- Every arm of every union has a pattern before it takes anything away. -/
def ArmsFounded (ps : List Pattern) : Prop :=
  ∀ arms ∈ collect Pattern.alternatives ps, ∀ arm ∈ arms, Founded arm.armPatterns

/-! ## The unions of a query -/

theorem seesBlankNodes_alternatives : SeesBlankNodes Pattern.alternatives where
  minus _ := rfl
  group _ := rfl
  bind _ _ _ := rfl
  filter _ _ := rfl
  triples _ _ := rfl

/-- A condition has no alternatives of its own. -/
theorem Condition.collect_alternatives {s : Settings} {c : Condition} {scope : Scope}
    {ps : List Pattern} (h : c.patterns s scope = .ok ps) :
    collect Pattern.alternatives ps = [] := by
  rcases seesBlankNodes_alternatives.collect_condition h with ⟨-, i, -, hps⟩ | ⟨-, hps⟩
  · rw [hps]
    rfl
  · exact hps

namespace Query

variable {s : Settings} {q : Query} {built : Condition × Nat → List Pattern}

/-- Only groups have alternatives: one for each member. -/
theorem mem_alternatives_body (h : q.Builds s built) {arms : List Pattern} :
    arms ∈ collect Pattern.alternatives (q.body built) ↔
      ∃ ms, .group ms ∈ q.tree ∧ arms = ms.map fun m => .group (built m) := by
  rw [body, collect_flatMap, List.mem_flatMap]
  have hmembers : ∀ e ∈ q.tree,
      (e.members.flatMap fun m => collect Pattern.alternatives (built m)) = [] := by
    intro e he
    refine List.flatMap_eq_nil_iff.2 fun m hm => ?_
    exact Condition.collect_alternatives (h m (mem_zipIdx_of_mem_tree he hm))
  constructor
  · rintro ⟨e, he, harms⟩
    rw [collect_elementPatterns seesBlankNodes_alternatives.toSeesThrough, hmembers e he,
      List.append_nil] at harms
    cases e with
    | single m => exact absurd harms List.not_mem_nil
    | group ms => exact ⟨ms, he, List.mem_singleton.1 harms⟩
  · rintro ⟨ms, hms, rfl⟩
    refine ⟨_, hms, ?_⟩
    rw [collect_elementPatterns seesBlankNodes_alternatives.toSeesThrough, hmembers _ hms,
      List.append_nil]
    exact List.mem_singleton_self _

/-- The patterns around those of the conditions have no alternatives. -/
theorem collect_alternatives_compile {answer : SelectQuery} (h : q.compile s = .ok answer) :
    ∃ built, q.Builds s built ∧
      collect Pattern.alternatives answer.patterns =
        collect Pattern.alternatives (q.body built) := by
  obtain ⟨built, items, hbuilt, -, -, hcollect⟩ :=
    collect_compile seesBlankNodes_alternatives.toSeesThrough h
  refine ⟨built, hbuilt, ?_⟩
  have hframe : (if q.omitLabels then []
      else (Pattern.service (s.namespaces.ontology "label") false
          [labelLanguagePattern s]).alternatives ++
        ((labelLanguagePattern s).alternatives ++ items.toPattern.alternatives)) = [] := by
    split <;> rfl
  have hany : (if (q.body built).all Pattern.isMinus then (anyItem s.namespaces).alternatives
      else []) = [] := by
    split <;> rfl
  rw [hcollect, hframe, hany, List.nil_append, List.nil_append]

/-! ## What arms begin with -/

/-- An arm begins with something to find exactly if its condition is not negated. -/
theorem founded_built (h : q.Builds s built) {m : Condition × Nat} (hm : m ∈ q.conditions.zipIdx) :
    Founded (built m) ↔ m.1.negate = false := by
  obtain ⟨p, rest, hps, hp⟩ := (h.signed hm).head
  rw [hps, founded_cons, hp]

/-- **Where alternatives take away from nothing.**  Every arm of every union of a compiled query has
a pattern before it takes anything away exactly if no condition of a group is negated. -/
theorem armsFounded_iff {answer : SelectQuery} (h : q.compile s = .ok answer) :
    ArmsFounded answer.patterns ↔
      ∀ cs, .group cs ∈ grouping Condition.isOr q.conditions → ∀ c ∈ cs, c.negate = false := by
  obtain ⟨built, hbuilt, hcollect⟩ := collect_alternatives_compile h
  rw [ArmsFounded, hcollect, ← map_fst_tree]
  constructor
  · intro harms cs hcs c hc
    obtain ⟨e, he, heq⟩ := List.mem_map.1 hcs
    cases e with
    | single m => exact absurd heq (by simp [Element.map])
    | group ms =>
      rw [Element.map, Element.group.injEq] at heq
      obtain ⟨m, hm, rfl⟩ := List.mem_map.1 (heq ▸ hc)
      have hfounded := harms _ ((mem_alternatives_body hbuilt).2 ⟨ms, he, rfl⟩)
        (.group (built m)) (List.mem_map_of_mem hm)
      exact (founded_built hbuilt (mem_zipIdx_of_mem_tree he hm)).1 hfounded
  · intro hplain arms harms arm harm
    obtain ⟨ms, hms, rfl⟩ := (mem_alternatives_body hbuilt).1 harms
    obtain ⟨m, hm, rfl⟩ := List.mem_map.1 harm
    refine (founded_built hbuilt (mem_zipIdx_of_mem_tree hms hm)).2 ?_
    exact hplain _ (List.mem_map_of_mem hms) _ (List.mem_map_of_mem hm)

/-- Items with "a" under `P1`, or without "b" under `P2`. -/
def eitherText : Query where
  conditions :=
    [ ⟨"P1", .string, .text "a", .matching, .regardless, false, false, none⟩,
      ⟨"P2", .string, .text "b", .matching, .regardless, false, true, some .or⟩ ]
  limit := none
  omitLabels := true

/-- The second arm takes away from nothing. -/
theorem armsFounded_eitherText :
    ∃ answer, eitherText.compile {} = .ok answer ∧
      (ArmsFounded answer.patterns ↔
        ∀ cs, .group cs ∈ grouping Condition.isOr eitherText.conditions →
          ∀ c ∈ cs, c.negate = false) ∧
      ¬ ArmsFounded answer.patterns := by
  refine ⟨_, rfl, armsFounded_iff rfl, fun harms => ?_⟩
  have hgroup : .group eitherText.conditions ∈ grouping Condition.isOr eitherText.conditions :=
    List.mem_singleton_self _
  exact absurd ((armsFounded_iff rfl).1 harms _ hgroup) (by decide)

end Query

end WikibaseQuery

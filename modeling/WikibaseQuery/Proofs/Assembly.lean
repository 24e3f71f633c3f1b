import Mathlib.Tactic.Choose
import WikibaseQuery.Compile.Select
import WikibaseQuery.Proofs.Families
import WikibaseQuery.Proofs.Grouping

/-!
# How a query is put together

Compiling counts the conditions while it walks the elements of the grouping.  Here the count is
replaced by the position that a condition has in the query: `Query.tree` is the grouping with that
position at every condition, and `Query.body` puts the patterns of the conditions in its places.

* `buildElements_of_builds`, `builds_of_buildElements` — the walk succeeds exactly when every
  condition builds at its own position, and gives the patterns in their places;
* `Query.compile_ok_iff` — what a compiled query is made of.
-/

namespace WikibaseQuery

/-- The patterns of an element whose members are built: those of a single condition as they are,
those of a group as the arms of a union. -/
def Element.patterns : Element (List Pattern) → List Pattern
  | .single ps => ps
  | .group arms => [.union (arms.map Pattern.group)]

/-! ## The walk over the elements -/

section

variable {build : Nat → Condition → Except CompileError (List Pattern)}
  {built : Condition × Nat → List Pattern}

theorem buildEach_of_builds {cs : List Condition} {i : Nat}
    (h : ∀ m ∈ cs.zipIdx i, build m.2 m.1 = .ok (built m)) :
    buildEach build i cs = .ok ((cs.zipIdx i).map built) := by
  induction cs generalizing i with
  | nil => rfl
  | cons c cs ih =>
    rw [List.zipIdx_cons] at h ⊢
    have hfirst : build i c = .ok (built (c, i)) := h (c, i) (List.mem_cons_self ..)
    have hothers := ih (fun m hm => h m (List.mem_cons_of_mem _ hm))
    rw [buildEach, hfirst, hothers]
    rfl

theorem builds_of_buildEach {cs : List Condition} {i : Nat} {arms : List (List Pattern)}
    (h : buildEach build i cs = .ok arms) :
    ∀ m ∈ cs.zipIdx i, ∃ ps, build m.2 m.1 = .ok ps := by
  induction cs generalizing i arms with
  | nil => intro m hm; exact absurd hm (List.not_mem_nil)
  | cons c cs ih =>
    obtain ⟨first, hfirst, h⟩ := (andThen_eq_ok _ _ _).1 h
    obtain ⟨others, hothers, -⟩ := (andThen_eq_ok _ _ _).1 h
    intro m hm
    rw [List.zipIdx_cons] at hm
    rcases List.mem_cons.1 hm with rfl | hm
    · exact ⟨first, hfirst⟩
    · exact ih hothers m hm

/-- Where every member builds at its position, the walk puts the patterns in their places. -/
theorem buildElements_of_builds {es : List (Element Condition)} {i : Nat}
    (h : ∀ m ∈ (es.flatMap Element.members).zipIdx i, build m.2 m.1 = .ok (built m)) :
    buildElements build i es =
      .ok ((numbered i es).flatMap fun e => (e.map built).patterns) := by
  induction es generalizing i with
  | nil => rfl
  | cons e es ih =>
    rw [List.flatMap_cons, List.zipIdx_append] at h
    have hmembers := fun m hm => h m (List.mem_append_left _ hm)
    have hothers := ih (fun m hm => h m (List.mem_append_right _ hm))
    cases e with
    | single c =>
      have hfirst : build i c = .ok (built (c, i)) := hmembers (c, i) (List.mem_cons_self ..)
      rw [Element.members, List.length_singleton] at hothers
      rw [buildElements, hfirst, hothers]
      rfl
    | group cs =>
      have harms : buildEach build i cs = .ok ((cs.zipIdx i).map built) :=
        buildEach_of_builds hmembers
      rw [Element.members] at hothers
      rw [buildElements, harms, hothers]
      rfl

/-- Where the walk succeeds, every member builds at its position. -/
theorem builds_of_buildElements {es : List (Element Condition)} {i : Nat} {ps : List Pattern}
    (h : buildElements build i es = .ok ps) :
    ∀ m ∈ (es.flatMap Element.members).zipIdx i, ∃ ps, build m.2 m.1 = .ok ps := by
  induction es generalizing i ps with
  | nil => intro m hm; exact absurd hm (List.not_mem_nil)
  | cons e es ih =>
    intro m hm
    rw [List.flatMap_cons, List.zipIdx_append] at hm
    cases e with
    | single c =>
      obtain ⟨first, hfirst, h⟩ := (andThen_eq_ok _ _ _).1 h
      obtain ⟨others, hothers, -⟩ := (andThen_eq_ok _ _ _).1 h
      rcases List.mem_append.1 hm with hm | hm
      · rw [List.mem_singleton.1 hm]
        exact ⟨first, hfirst⟩
      · exact ih hothers m hm
    | group cs =>
      obtain ⟨arms, harms, h⟩ := (andThen_eq_ok _ _ _).1 h
      obtain ⟨others, hothers, -⟩ := (andThen_eq_ok _ _ _).1 h
      rcases List.mem_append.1 hm with hm | hm
      · exact builds_of_buildEach harms m hm
      · exact ih hothers m hm

end

/-! ## Queries -/

namespace Query

variable {s : Settings} {q : Query}

/-- The grouping of the conditions, with the position of each. -/
def tree (q : Query) : List (Element (Condition × Nat)) :=
  numbered 0 (grouping Condition.isOr q.conditions)

/-- Every condition builds, in the scope of its position. -/
def Builds (s : Settings) (q : Query) (built : Condition × Nat → List Pattern) : Prop :=
  ∀ m ∈ q.conditions.zipIdx, m.1.patterns s (m.1.scope q.conditions m.2) = .ok (built m)

/-- The patterns of the conditions in their places. -/
def body (q : Query) (built : Condition × Nat → List Pattern) : List Pattern :=
  q.tree.flatMap fun e => (e.map built).patterns

theorem map_fst_tree (q : Query) :
    q.tree.map (Element.map Prod.fst) = grouping Condition.isOr q.conditions :=
  map_fst_numbered _ _

theorem flatMap_members_tree (q : Query) :
    q.tree.flatMap Element.members = q.conditions.zipIdx := by
  rw [tree, flatMap_members_numbered, flatMap_members_grouping]

/-- Every member of an element of the tree is a condition at its position. -/
theorem mem_zipIdx_of_mem_tree {e : Element (Condition × Nat)} (he : e ∈ q.tree)
    {m : Condition × Nat} (hm : m ∈ e.members) : m ∈ q.conditions.zipIdx := by
  rw [← flatMap_members_tree]
  exact List.mem_flatMap.2 ⟨e, he, hm⟩

theorem map_fst_mem_grouping {e : Element (Condition × Nat)} (he : e ∈ q.tree) :
    e.map Prod.fst ∈ grouping Condition.isOr q.conditions := by
  rw [← map_fst_tree]
  exact List.mem_map_of_mem he

/-- No element of the tree is empty. -/
theorem members_ne_nil_of_mem_tree {e : Element (Condition × Nat)} (he : e ∈ q.tree) :
    e.members ≠ [] := by
  have hne := members_ne_nil_of_mem Condition.isOr (map_fst_mem_grouping he)
  cases e with
  | single m => exact List.cons_ne_nil m []
  | group ms => simpa [Element.map, Element.members] using hne

theorem buildElements_eq_body {built : Condition × Nat → List Pattern} (h : q.Builds s built) :
    buildElements (fun i c => c.patterns s (c.scope q.conditions i)) 0
      (grouping Condition.isOr q.conditions) = .ok (q.body built) := by
  refine buildElements_of_builds ?_
  rw [flatMap_members_grouping]
  exact h

/-- The query for the items exists exactly when every condition builds. -/
theorem compileItems_eq_ok {items : SelectQuery} :
    q.compileItems s = .ok items ↔
      ∃ built, q.Builds s built ∧
        items = ⟨true, [Variable.item], withAnyItem s.namespaces (q.body built), q.limit⟩ := by
  unfold compileItems
  simp only [andThen_eq_ok]
  constructor
  · rintro ⟨ps, hps, hitems⟩
    have hbuilds := builds_of_buildElements hps
    rw [flatMap_members_grouping] at hbuilds
    choose! built hbuilt using hbuilds
    rw [buildElements_eq_body hbuilt] at hps
    cases hps
    exact ⟨built, hbuilt, (Except.ok.inj hitems).symm⟩
  · rintro ⟨built, hbuilt, rfl⟩
    exact ⟨q.body built, buildElements_eq_body hbuilt, rfl⟩

theorem compile_eq_ok {answer : SelectQuery} :
    q.compile s = .ok answer ↔
      ∃ items, q.compileItems s = .ok items ∧
        answer = if q.omitLabels then items else withLabels s items := by
  unfold compile
  rw [andThen_eq_ok]
  constructor
  · rintro ⟨items, hitems, hanswer⟩
    exact ⟨items, hitems, (Except.ok.inj hanswer).symm⟩
  · rintro ⟨items, hitems, rfl⟩
    exact ⟨items, hitems, rfl⟩

/-- **What a compiled query is made of.**  The tree is the grouping with every condition at the
position where it is declared, each of them once.  A query compiles exactly when every condition
builds in a scope of that position, and then the patterns stand in the places of the tree: those of a single
condition as they are, those of a group as one union with a group for each condition.  Only where
all of them take items away does the pattern for any item come first. -/
theorem compile_ok_iff (s : Settings) (q : Query) :
    q.tree.map (Element.map Prod.fst) = grouping Condition.isOr q.conditions ∧
    q.tree.flatMap Element.members = q.conditions.zipIdx ∧
    ∀ answer, q.compile s = .ok answer ↔
      ∃ (built : Condition × Nat → List Pattern) (items : SelectQuery),
        (∀ m ∈ q.conditions.zipIdx,
          (m.1.scope q.conditions m.2).position = some m.2 ∧
          m.1.patterns s (m.1.scope q.conditions m.2) = .ok (built m)) ∧
        items.distinct = true ∧ items.projection = [⟨"item"⟩] ∧ items.limit = q.limit ∧
        items.patterns =
          (if (q.body built).all Pattern.isMinus then [anyItem s.namespaces] else []) ++
            q.body built ∧
        answer =
          if q.omitLabels then items
          else
            { distinct := true
              projection := [⟨"item"⟩, ⟨"itemLabel"⟩]
              patterns :=
                [ .service (s.namespaces.ontology "label") false [labelLanguagePattern s],
                  .group [.subquery true [⟨"item"⟩] items.patterns q.limit] ]
              limit := none } := by
  refine ⟨q.map_fst_tree, q.flatMap_members_tree, fun answer => ?_⟩
  have hplaceholder : ∀ ps : List Pattern, withAnyItem s.namespaces ps =
      (if ps.all Pattern.isMinus then [anyItem s.namespaces] else []) ++ ps := by
    intro ps
    unfold withAnyItem
    split <;> rfl
  rw [compile_eq_ok]
  simp only [compileItems_eq_ok, hplaceholder]
  constructor
  · rintro ⟨_, ⟨built, hbuilt, rfl⟩, rfl⟩
    exact ⟨built, _, fun m hm => ⟨rfl, hbuilt m hm⟩, rfl, rfl, rfl, rfl, rfl⟩
  · rintro ⟨built, ⟨distinct, projection, patterns, limit⟩, hbuilt, rfl, rfl, rfl, rfl, rfl⟩
    exact ⟨_, ⟨built, fun m hm => (hbuilt m hm).2, rfl⟩, rfl⟩

/-- A city or a town, with an image. -/
def cityOrTown : Query where
  conditions :=
    [ ⟨"P31", .item, .entity "Q515", .matching, .regardless, false, false, none⟩,
      ⟨"P31", .item, .entity "Q3957", .matching, .regardless, false, false, some .or⟩,
      ⟨"P18", .string, .text "", .regardless, .regardless, false, false, some .and⟩ ]
  limit := some 5
  omitLabels := false

/-- The first two conditions are the arms of a union, and the third one stands beside it; each is
built at its own position. -/
theorem compile_ok_iff_cityOrTown :
    ∃ answer, cityOrTown.compile {} = .ok answer ∧
      ∃ city town image,
        cityOrTown.conditions[0].patterns {} ⟨some 0, ""⟩ = .ok city ∧
        cityOrTown.conditions[1].patterns {} ⟨some 1, ""⟩ = .ok town ∧
        cityOrTown.conditions[2].patterns {} ⟨some 2, ""⟩ = .ok image ∧
        answer = withLabels {}
          ⟨true, [Variable.item], .union [.group city, .group town] :: image, some 5⟩ := by
  refine ⟨_, rfl, ?_⟩
  obtain ⟨-, -, hcompile⟩ := compile_ok_iff {} cityOrTown
  obtain ⟨built, items, hbuilt, -, -, -, hpatterns, hanswer⟩ := (hcompile _).1 rfl
  have hbody : cityOrTown.body built =
      .union [.group (built (cityOrTown.conditions[0], 0)),
        .group (built (cityOrTown.conditions[1], 1))] :: built (cityOrTown.conditions[2], 2) :=
    congrArg (_ :: ·) (List.append_nil _)
  rw [hbody] at hpatterns
  refine ⟨_, _, _, (hbuilt _ (.head _)).2, (hbuilt _ (.tail _ (.head _))).2,
    (hbuilt _ (.tail _ (.tail _ (.head _)))).2, ?_⟩
  rw [hanswer, hpatterns]
  rfl

end Query

end WikibaseQuery

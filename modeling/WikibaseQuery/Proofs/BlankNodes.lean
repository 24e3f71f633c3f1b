import Mathlib.Data.List.Nodup
import WikibaseQuery.Proofs.Nesting

/-!
# Blank nodes of different conditions

A label that stands in two basic graph patterns of a query would make two blank nodes one.  This
file says which queries keep their labels apart.

* `Condition.collect_labelSets` — a condition has one blank node or none, and its label;
* `anyValueLabel_inj` — a label tells the property and the suffix;
* `Query.blankNodes_apart_iff` — labels are kept apart exactly if every property with two blank
  nodes has two conditions that count as repeated.
-/

namespace WikibaseQuery

/-! ## Labels -/

/-- The triples of a basic graph pattern. -/
def Pattern.block : Pattern → List (List Triple)
  | .triples ts => [ts]
  | _ => []

/-- No label stands in two basic graph patterns, wherever these are. -/
def BlankNodesApart (ps : List Pattern) : Prop :=
  (collect Pattern.block ps).Pairwise fun a b => ∀ label ∈ blankLabels a, label ∉ blankLabels b

instance (ps : List Pattern) : Decidable (BlankNodesApart ps) :=
  inferInstanceAs (Decidable (List.Pairwise _ _))

/-- The labels of a basic graph pattern, if it has any. -/
def Pattern.labelSets (p : Pattern) : List (List String) :=
  (p.block.map blankLabels).filter (· ≠ [])

/-- Basic graph patterns without labels do not matter. -/
theorem blankNodesApart_iff {ps : List Pattern} :
    BlankNodesApart ps ↔ (collect Pattern.labelSets ps).Pairwise List.Disjoint := by
  have hsets : collect Pattern.labelSets ps =
      ((collect Pattern.block ps).map blankLabels).filter (· ≠ []) := by
    rw [collect, collect, List.map_flatMap, List.filter_flatMap]
    rfl
  rw [BlankNodesApart, hsets, List.pairwise_filter, List.pairwise_map]
  refine List.Pairwise.iff fun a b => ?_
  constructor
  · intro h _ _ label ha hb
    exact h label ha hb
  · intro h label ha hb
    have hna : blankLabels a ≠ [] := List.ne_nil_of_mem ha
    have hnb : blankLabels b ≠ [] := List.ne_nil_of_mem hb
    exact h (by simpa using hna) (by simpa using hnb) ha hb

/-! ## The blank node of a condition -/

/-- The label of the blank node for any value of a property. -/
def anyValueLabel (property suffix : String) : String :=
  if suffix = "" then "anyValue" ++ property else "anyValue" ++ property ++ "_" ++ suffix

theorem labelSets_triples (triples : List Triple) :
    (Pattern.triples triples).labelSets =
      if blankLabels triples = [] then [] else [blankLabels triples] := by
  unfold Pattern.labelSets Pattern.block
  by_cases h : blankLabels triples = [] <;> simp [h]

theorem seesBlankNodes_labelSets : SeesBlankNodes Pattern.labelSets where
  minus _ := rfl
  group _ := rfl
  bind _ _ _ := rfl
  filter _ _ := rfl
  triples ts h := by rw [labelSets_triples, if_pos h]

/-- **The blank node of a condition.**  It has one, whose label is that of its property and its
suffix, or it has none. -/
theorem Condition.collect_labelSets {s : Settings} {c : Condition} {scope : Scope}
    {ps : List Pattern} (h : c.patterns s scope = .ok ps) :
    collect Pattern.labelSets ps =
      if c.hasBlankNode then [[anyValueLabel c.property scope.suffix]] else [] := by
  rcases seesBlankNodes_labelSets.collect_condition h with ⟨hblank, i, -, hps⟩ | ⟨hblank, hps⟩
  · rw [hps, if_pos hblank]
    rfl
  · rw [hps, hblank]
    rfl

/-! ## Labels tell conditions apart -/

/-- A property id of letters and digits. -/
def IsPlainId (id : String) : Prop := id ≠ "" ∧ ∀ ch ∈ id.toList, ch.isAlphanum = true

instance (id : String) : Decidable (IsPlainId id) :=
  decidable_of_iff (id ≠ "" ∧ id.toList.all Char.isAlphanum = true) (by
    rw [List.all_eq_true, IsPlainId])

theorem IsPlainId.not_mem_underscore {id : String} (h : IsPlainId id) : '_' ∉ id.toList :=
  fun hmem => absurd (h.2 '_' hmem) (by decide)

/-- What follows the property in a label. -/
def labelTail (suffix : String) : List Char := if suffix = "" then [] else '_' :: suffix.toList

theorem toList_anyValueLabel (property suffix : String) :
    (anyValueLabel property suffix).toList =
      "anyValue".toList ++ (property.toList ++ labelTail suffix) := by
  unfold anyValueLabel labelTail
  split <;> simp

theorem labelTail_inj {suffix suffix' : String} (h : labelTail suffix = labelTail suffix') :
    suffix = suffix' := by
  unfold labelTail at h
  split at h <;> split at h <;> simp_all [String.toList_inj]

/-- The property ends where the label has its first underscore, or at the end of the label. -/
theorem takeWhile_append_labelTail {cs : List Char} (h : '_' ∉ cs) (suffix : String) :
    (cs ++ labelTail suffix).takeWhile (· ≠ '_') = cs := by
  have hcs : ∀ ch ∈ cs, decide (ch ≠ '_') = true := by
    intro ch hch
    rw [decide_eq_true_eq]
    rintro rfl
    exact h hch
  have htail : (labelTail suffix).takeWhile (· ≠ '_') = [] := by
    unfold labelTail
    split <;> simp
  rw [List.takeWhile_append_of_pos hcs, htail, List.append_nil]

theorem anyValueLabel_inj {property property' suffix suffix' : String}
    (hp : '_' ∉ property.toList) (hp' : '_' ∉ property'.toList) :
    anyValueLabel property suffix = anyValueLabel property' suffix' ↔
      property = property' ∧ suffix = suffix' := by
  constructor
  · intro h
    have hlists := congrArg String.toList h
    rw [toList_anyValueLabel, toList_anyValueLabel] at hlists
    have hrest := List.append_cancel_left hlists
    have hproperty : property.toList = property'.toList := by
      rw [← takeWhile_append_labelTail hp suffix, hrest, takeWhile_append_labelTail hp' suffix']
    rw [hproperty] at hrest
    exact ⟨String.toList_inj.1 hproperty, labelTail_inj (List.append_cancel_left hrest)⟩
  · rintro ⟨rfl, rfl⟩
    rfl

/-- The label for any item belongs to no property. -/
theorem anyValueLabel_ne {property : String} (hp : property ≠ "") (suffix : String) :
    anyValueLabel property suffix ≠ "anyValue" := by
  intro h
  have hlists := congrArg String.toList h
  rw [toList_anyValueLabel] at hlists
  have hnil : property = "" ∧ labelTail suffix = [] := by simpa using hlists
  exact hp hnil.1

/-- A position can be read off its digits. -/
theorem toString_position_inj {i j : Nat} (h : toString i = toString j) : i = j := by
  have hdigits := congrArg (fun digits : String => Nat.ofDigitChars 10 digits.toList 0) h
  simpa using hdigits

/-! ## Queries -/

/-- What holds of the property of any two conditions with a blank node holds of every property that
two of them have. -/
theorem pairwise_sharing_iff {cs : List Condition} {R : String → Prop} :
    (cs.Pairwise fun a b => a.hasBlankNode = true → b.hasBlankNode = true →
        a.property = b.property → R a.property) ↔
      ∀ property, 1 < cs.countP (fun c => c.property = property && c.hasBlankNode) →
        R property := by
  constructor
  · intro h property hcount
    rw [List.countP_eq_length_filter] at hcount
    obtain ⟨a, b, hsub⟩ : ∃ a b,
        [a, b].Sublist (cs.filter fun c => c.property = property && c.hasBlankNode) := by
      match hfilter : cs.filter (fun c => c.property = property && c.hasBlankNode) with
      | [] | [_] => exact absurd hcount (by simp [hfilter])
      | a :: b :: rest => exact ⟨a, b, by rw [hfilter]; simp⟩
    have hmem : ∀ c ∈ [a, b], c.property = property ∧ c.hasBlankNode = true := by
      intro c hc
      simpa using (List.mem_filter.1 (hsub.subset hc)).2
    obtain ⟨ha, hna⟩ := hmem a (by simp)
    obtain ⟨hb, hnb⟩ := hmem b (by simp)
    have hR := List.pairwise_iff_forall_sublist.1 h (hsub.trans List.filter_sublist) hna hnb
      (ha.trans hb.symm)
    rwa [ha] at hR
  · intro h
    refine List.pairwise_iff_forall_sublist.2 fun {a b} hsub hna hnb heq => h a.property ?_
    have hle := hsub.countP_le (p := fun c => c.property = a.property && c.hasBlankNode)
    have htwo : [a, b].countP (fun c => c.property = a.property && c.hasBlankNode) = 2 := by
      simp [hna, hnb, heq]
    omega

namespace Query

variable {s : Settings} {q : Query} {built : Condition × Nat → List Pattern}

/-- The label of the blank node of a condition at its position. -/
def label (q : Query) (m : Condition × Nat) : String :=
  anyValueLabel m.1.property (m.1.scope q.conditions m.2).suffix

/-- Two positions of one property have two labels exactly if the property counts as repeated. -/
theorem label_ne_iff {a b : Condition × Nat} (ha : IsPlainId a.1.property)
    (hb : IsPlainId b.1.property) (hpos : a.2 ≠ b.2) :
    q.label a ≠ q.label b ↔
      (a.1.property = b.1.property → isRepeated q.conditions a.1.property = true) := by
  have hsuffix : toString a.2 ≠ toString b.2 := fun h => hpos (toString_position_inj h)
  rw [label, label, ne_eq, anyValueLabel_inj ha.not_mem_underscore hb.not_mem_underscore, not_and]
  refine forall_congr' fun heq => ?_
  rw [Condition.scope, Condition.scope, ← heq]
  cases isRepeated q.conditions a.1.property with
  | false => simp
  | true => simpa using hsuffix

theorem collect_labelSets_body (h : q.Builds s built) :
    collect Pattern.labelSets (q.body built) =
      q.conditions.zipIdx.flatMap fun m => if m.1.hasBlankNode then [[q.label m]] else [] := by
  rw [collect_body seesBlankNodes_labelSets.toSeesThrough fun _ => rfl]
  refine List.flatMap_congr fun m hm => ?_
  exact Condition.collect_labelSets (h m hm)

/-- The positions of a list are different. -/
theorem pairwise_position_ne (cs : List Condition) :
    cs.zipIdx.Pairwise fun a b => a.2 ≠ b.2 := by
  have hlt : (cs.zipIdx.map Prod.snd).Pairwise (· < ·) := by
    rw [List.zipIdx_map_snd]
    exact List.pairwise_lt_range'
  exact (List.pairwise_map.1 hlt).imp fun hab => Nat.ne_of_lt hab

theorem pairwise_disjoint_body (hids : ∀ c ∈ q.conditions, IsPlainId c.property)
    (h : q.Builds s built) :
    (collect Pattern.labelSets (q.body built)).Pairwise List.Disjoint ↔
      ∀ property, 1 < q.conditions.countP (fun c => c.property = property && c.hasBlankNode) →
        isRepeated q.conditions property = true := by
  have hconditions : ∀ R : Condition → Condition → Prop,
      q.conditions.Pairwise R ↔ q.conditions.zipIdx.Pairwise fun a b => R a.1 b.1 := by
    intro R
    have hmap := List.pairwise_map (f := Prod.fst) (l := q.conditions.zipIdx) (R := R)
    rwa [List.zipIdx_map_fst] at hmap
  have hone : ∀ m : Condition × Nat,
      (if m.1.hasBlankNode then [[q.label m]] else []).Pairwise List.Disjoint := by
    intro m
    split <;> simp
  have htwo : ∀ {a b : Condition × Nat}, a ∈ q.conditions.zipIdx → b ∈ q.conditions.zipIdx →
      (((∀ x ∈ if a.1.hasBlankNode then [[q.label a]] else [],
          ∀ y ∈ if b.1.hasBlankNode then [[q.label b]] else [], List.Disjoint x y) ∧ a.2 ≠ b.2) ↔
        ((a.1.hasBlankNode = true → b.1.hasBlankNode = true → a.1.property = b.1.property →
          isRepeated q.conditions a.1.property = true) ∧ a.2 ≠ b.2)) := by
    intro a b ha hb
    refine and_congr_left fun hpos => ?_
    rw [← label_ne_iff (hids _ (List.fst_mem_of_mem_zipIdx ha))
      (hids _ (List.fst_mem_of_mem_zipIdx hb)) hpos]
    cases a.1.hasBlankNode <;> cases b.1.hasBlankNode <;> simp [eq_comm]
  have hpairs := List.Pairwise.iff_of_mem htwo
  simp only [List.pairwise_and_iff, pairwise_position_ne, and_true] at hpairs
  rw [collect_labelSets_body h, List.pairwise_flatMap, ← pairwise_sharing_iff, hconditions,
    ← hpairs]
  exact and_iff_right fun m _ => hone m

/-- The label for any item is that of no condition. -/
theorem disjoint_anyValue_body (hids : ∀ c ∈ q.conditions, IsPlainId c.property)
    (h : q.Builds s built) :
    ∀ labels ∈ collect Pattern.labelSets (q.body built), List.Disjoint ["anyValue"] labels := by
  intro labels hlabels
  rw [collect_labelSets_body h] at hlabels
  obtain ⟨m, hm, hlabels⟩ := List.mem_flatMap.1 hlabels
  have hne := anyValueLabel_ne (hids _ (List.fst_mem_of_mem_zipIdx hm)).1
    (m.1.scope q.conditions m.2).suffix
  split at hlabels
  · obtain rfl := List.mem_singleton.1 hlabels
    simpa [label] using hne
  · exact absurd hlabels (List.not_mem_nil)

/-- **When labels are kept apart.**  Where property ids are made of letters and digits, no label
stands in two basic graph patterns of a compiled query exactly if every property with a blank node
in two conditions also has two conditions that count as repeated. -/
theorem blankNodes_apart_iff {answer : SelectQuery}
    (hids : ∀ c ∈ q.conditions, IsPlainId c.property) (h : q.compile s = .ok answer) :
    BlankNodesApart answer.patterns ↔
      ∀ property, 1 < q.conditions.countP (fun c => c.property = property && c.hasBlankNode) →
        isRepeated q.conditions property = true := by
  obtain ⟨built, items, hbuilt, -, -, hcollect⟩ :=
    collect_compile seesBlankNodes_labelSets.toSeesThrough h
  have hframe : (if q.omitLabels then []
      else (Pattern.service (s.namespaces.ontology "label") false
          [labelLanguagePattern s]).labelSets ++
        ((labelLanguagePattern s).labelSets ++ items.toPattern.labelSets)) = [] := by
    split <;> rfl
  have hany : (anyItem s.namespaces).labelSets = [["anyValue"]] := rfl
  rw [blankNodesApart_iff, hcollect, hframe, List.nil_append, hany, List.pairwise_append,
    pairwise_disjoint_body hids hbuilt]
  constructor
  · exact fun hall => hall.2.1
  · refine fun hall => ⟨?_, hall, ?_⟩
    · split <;> simp
    · intro labels hlabels
      split at hlabels
      · obtain rfl := List.mem_singleton.1 hlabels
        exact disjoint_anyValue_body hids hbuilt
      · exact absurd hlabels (List.not_mem_nil)

/-- Any value of `P31` twice, the second time with a constraint on references. -/
def twoAnyValues (references : References) : Query where
  conditions :=
    [ ⟨"P31", .item, .text "", .regardless, .regardless, false, false, none⟩,
      ⟨"P31", .item, .text "", .regardless, references, false, false, some .and⟩ ]
  limit := none
  omitLabels := true

/-- Without the constraint both conditions count, and their labels have suffixes. -/
theorem blankNodes_apart_twoAnyValues :
    (∀ c ∈ (twoAnyValues .regardless).conditions, IsPlainId c.property) ∧
      ∃ answer, (twoAnyValues .regardless).compile {} = .ok answer ∧
        (BlankNodesApart answer.patterns ↔
          ∀ property, 1 < (twoAnyValues .regardless).conditions.countP
              (fun c => c.property = property && c.hasBlankNode) →
            isRepeated (twoAnyValues .regardless).conditions property = true) := by
  have hids : ∀ c ∈ (twoAnyValues .regardless).conditions, IsPlainId c.property := by decide
  exact ⟨hids, _, rfl, blankNodes_apart_iff hids rfl⟩

/-- With the constraint only one of them counts, and both have the same label. -/
theorem not_blankNodes_apart_twoAnyValues :
    (∀ c ∈ (twoAnyValues .present).conditions, IsPlainId c.property) ∧
      ∃ answer, (twoAnyValues .present).compile {} = .ok answer ∧
        ¬ BlankNodesApart answer.patterns :=
  ⟨by decide, _, rfl, by decide⟩

end Query

end WikibaseQuery

import Mathlib.Data.List.Forall2
import Mathlib.Logic.Relation
import WikibaseQuery.Proofs.Families

/-!
# What a result depends on

A condition has fields that do not always matter, and settings that not every query needs.  Two runs
are compared here: if no condition builds anything else in the second one, and none counts otherwise
towards the repeats of its property, then the two queries compile to the same, be it a query or an
error.

* `Query.compile_congr` — runs whose conditions are alike have the same result;
* `Condition.Change`, `Query.compile_of_changes` — changes of a condition that do not matter, in any
  number of conditions and one after the other;
* `Query.compile_of_settings` — the conversion property matters only where an amount has a unit, and
  a subclass property only where subclasses count.
-/

namespace WikibaseQuery

/-! ## Groupings of lists that go together -/

section

variable {α β : Type}

/-- Elements of one form whose members go together. -/
inductive Element.Rel (r : α → β → Prop) : Element α → Element β → Prop
  | single {a : α} {b : β} : r a b → Rel r (.single a) (.single b)
  | group {as : List α} {bs : List β} : List.Forall₂ r as bs → Rel r (.group as) (.group bs)

variable {r : α → β → Prop} {isOr : α → Bool} {isOr' : β → Bool}

theorem Element.Rel.members {e : Element α} {f : Element β} (h : e.Rel r f) :
    List.Forall₂ r e.members f.members := by
  cases h with
  | single hab => exact .cons hab .nil
  | group hs => exact hs

theorem forall₂_addElement {done : List (Element α)} {done' : List (Element β)}
    (hdone : List.Forall₂ (Element.Rel r) done done') {a : α} {b : β} (hab : r a b)
    (hor : isOr a = isOr' b) :
    List.Forall₂ (Element.Rel r) (addElement isOr done a) (addElement isOr' done' b) := by
  unfold addElement
  rw [hor]
  cases isOr' b with
  | false => exact .cons (.single hab) hdone
  | true =>
    cases hdone with
    | nil => exact .cons (.group (.cons hab .nil)) .nil
    | cons hlast hothers =>
      exact .cons (.group (List.rel_append hlast.members (.cons hab .nil))) hothers

/-- Lists that go together, and say "or" in the same places, are grouped in the same way. -/
theorem forall₂_grouping (hor : ∀ a b, r a b → isOr a = isOr' b) {as : List α} {bs : List β}
    (h : List.Forall₂ r as bs) :
    List.Forall₂ (Element.Rel r) (grouping isOr as) (grouping isOr' bs) := by
  have hfold : ∀ {done : List (Element α)} {done' : List (Element β)},
      List.Forall₂ (Element.Rel r) done done' →
      List.Forall₂ (Element.Rel r) (as.foldl (addElement isOr) done)
        (bs.foldl (addElement isOr') done') := by
    induction h with
    | nil => exact fun hdone => hdone
    | cons hab _ ih => exact fun hdone => ih (forall₂_addElement hdone hab (hor _ _ hab))
  exact List.forall₂_reverse_iff.2 (hfold .nil)

end

/-! ## Runs over conditions that are alike -/

/-- Two conditions, each under settings of its own, that no query tells apart. -/
structure Condition.Alike (s s' : Settings) (c d : Condition) : Prop where
  patterns : ∀ scope, c.patterns s scope = d.patterns s' scope
  isOr : c.isOr = d.isOr
  property : c.property = d.property
  usesAnyValue : c.usesAnyValue = d.usesAnyValue
  references : c.references = d.references

section

variable {s s' : Settings} {cs ds : List Condition}

theorem Condition.Alike.countsAsRepeat {c d : Condition} (h : c.Alike s s' d)
    (property : String) : c.countsAsRepeat property = d.countsAsRepeat property := by
  unfold Condition.countsAsRepeat
  rw [h.property, h.usesAnyValue, h.references]

/-- The repeats of a property are the same. -/
theorem isRepeated_congr (h : List.Forall₂ (Condition.Alike s s') cs ds) (property : String) :
    isRepeated cs property = isRepeated ds property := by
  have hcount : cs.countP (Condition.countsAsRepeat property) =
      ds.countP (Condition.countsAsRepeat property) := by
    induction h with
    | nil => rfl
    | cons hcd _ ih => rw [List.countP_cons, List.countP_cons, ih, hcd.countsAsRepeat]
  unfold isRepeated
  rw [hcount]

variable {build build' : Nat → Condition → Except CompileError (List Pattern)}
  {r : Condition → Condition → Prop}

theorem buildEach_congr (hbuild : ∀ i c d, r c d → build i c = build' i d)
    (h : List.Forall₂ r cs ds) (i : Nat) : buildEach build i cs = buildEach build' i ds := by
  induction h generalizing i with
  | nil => rfl
  | cons hcd _ ih => rw [buildEach, buildEach, hbuild i _ _ hcd, ih]

/-- The walk over the elements meets the same patterns and the same errors. -/
theorem buildElements_congr (hbuild : ∀ i c d, r c d → build i c = build' i d)
    {es fs : List (Element Condition)} (h : List.Forall₂ (Element.Rel r) es fs) (i : Nat) :
    buildElements build i es = buildElements build' i fs := by
  induction h generalizing i with
  | nil => rfl
  | cons hef _ ih =>
    cases hef with
    | single hcd => rw [buildElements, buildElements, hbuild i _ _ hcd, ih]
    | group hs =>
      rw [buildElements, buildElements, buildEach_congr hbuild hs, hs.length_eq]
      simp only [ih]

/-- **Runs that do not differ.**  Queries whose conditions are alike, under settings of the same
namespaces and the same language of labels, have the same result. -/
theorem Query.compile_congr {q q' : Query} (hnamespaces : s.namespaces = s'.namespaces)
    (hlanguage : s.labelLanguage = s'.labelLanguage) (hlimit : q.limit = q'.limit)
    (hlabels : q.omitLabels = q'.omitLabels)
    (h : List.Forall₂ (Condition.Alike s s') q.conditions q'.conditions) :
    q.compile s = q'.compile s' := by
  have hscope : ∀ (i : Nat) (c d : Condition), c.Alike s s' d →
      c.patterns s (c.scope q.conditions i) = d.patterns s' (d.scope q'.conditions i) := by
    intro i c d hcd
    have hsame : c.scope q.conditions i = d.scope q'.conditions i := by
      unfold Condition.scope
      rw [hcd.property, isRepeated_congr h]
    rw [hcd.patterns, hsame]
  have hgrouping := forall₂_grouping (fun c d hcd => Condition.Alike.isOr hcd) h
  have hitems : q.compileItems s = q'.compileItems s' := by
    unfold Query.compileItems
    simp only [buildElements_congr hscope hgrouping, hnamespaces, hlimit]
  have hframe : withLabels s = withLabels s' := by
    funext items
    simp only [withLabels, labelLanguagePattern, hnamespaces, hlanguage]
  unfold Query.compile
  rw [hitems, hlabels, hframe]

end

/-! ## Changes that do not matter -/

/-- A change of one field of a condition that does not matter. -/
inductive Condition.Change : Condition → Condition → Prop
  /-- Where any value will do, an entity, a quantity or a point in time need not be named. -/
  | value {c : Condition} (value : Value) : c.relation = .regardless →
      Family.ofDatatype c.datatype ∈ [.entity, .quantity, .time] → Change c { c with value }
  /-- Where any value will do, one text is as good as another. -/
  | text {c : Condition} {text : String} (other : String) : c.relation = .regardless →
      Family.ofDatatype c.datatype = .text → c.value = .text text →
      Change c { c with value := .text other }
  /-- A datatype without patterns of its own asks for no value. -/
  | unreadValue {c : Condition} (value : Value) : c.datatype.isSupported = false →
      Change c { c with value }
  /-- Nor for a relation, as long as it is not one of order. -/
  | unreadRelation {c : Condition} (relation : Relation) : c.datatype.isSupported = false →
      c.relation ∈ [.matching, .notMatching, .regardless] →
      relation ∈ [.matching, .notMatching, .regardless] → Change c { c with relation }
  /-- Subclasses count for items only, and only where the value should match or should not. -/
  | subclasses {c : Condition} (subclasses : Bool) :
      ¬ (c.datatype = .item ∧ (c.relation = .matching ∨ c.relation = .notMatching)) →
      Change c { c with subclasses }

section

variable {s : Settings} {n : Namespaces} {c : Condition} {scope : Scope}

/-- Where any value will do, none is looked at. -/
theorem statementPatterns_regardless (h : c.relation = .regardless) (value value' : Term)
    (tail tail' : List Path) :
    statementPatterns n c scope value tail = statementPatterns n c scope value' tail' := by
  simp only [statementPatterns, statementObject, excludeValue, h]

/-- Without a match there is nothing that subclasses could prolong. -/
theorem subclassTail_eq_nil
    (h : ¬ (c.datatype = .item ∧ (c.relation = .matching ∨ c.relation = .notMatching))) :
    subclassTail s c = .ok [] := by
  unfold subclassTail
  rw [if_neg]
  rintro ⟨hd, -, hr⟩
  exact h ⟨hd, hr⟩

/-- An entity need not be named where any will do. -/
theorem entityPatterns_regardless (h : c.relation = .regardless) :
    entityPatterns s c scope =
      statementPatterns s.namespaces c scope (s.namespaces.entity "") [] := by
  have hmatch : ¬ (c.datatype = .item ∧ (c.relation = .matching ∨ c.relation = .notMatching)) := by
    rintro ⟨-, hr⟩
    rw [h] at hr
    simp at hr
  unfold entityPatterns
  cases c.value with
  | entity id =>
    rw [subclassTail_eq_nil hmatch]
    exact statementPatterns_regardless h _ _ _ _
  | _ => rw [h]

theorem textPatterns_regardless {text : String} (h : c.relation = .regardless)
    (hv : c.value = .text text) :
    textPatterns s c scope =
      statementPatterns s.namespaces c scope (.literal (.plain "")) [] := by
  unfold textPatterns
  rw [hv]
  exact statementPatterns_regardless h _ _ _ _

theorem quantityPatterns_regardless (h : c.relation = .regardless) (value : Value) :
    quantityPatterns s { c with value } scope = quantityPatterns s c scope := by
  simp only [quantityPatterns, positiveQuantityPatterns, h, plainAmountPatterns]

theorem timePatterns_regardless (h : c.relation = .regardless) (value : Value) :
    timePatterns s { c with value } scope = timePatterns s c scope := by
  simp only [timePatterns, positiveTimePatterns, h]

/-- The existence of a value does not depend on the relation, unless this is one of order. -/
theorem existencePatterns_eq (h : c.relation ∈ [.matching, .notMatching, .regardless]) :
    existencePatterns s c scope =
      statementPatterns s.namespaces { c with relation := .regardless } scope
        (anyValueNode c.property scope.suffix) [] := by
  unfold existencePatterns
  cases hr : c.relation <;> simp_all

theorem Family.ofDatatype_of_not_isSupported {d : Datatype} (h : d.isSupported = false) :
    ofDatatype d = .existence := by
  cases d with
  | unsupported name => rfl
  | _ => simp [Datatype.isSupported] at h

/-- No family looks at the value where the change allows for another one. -/
theorem Condition.patterns_value (value : Value) (hr : c.relation = .regardless)
    (hf : Family.ofDatatype c.datatype ∈ [.entity, .quantity, .time]) :
    c.patterns s scope = { c with value }.patterns s scope := by
  rw [Condition.patterns_eq, Condition.patterns_eq]
  cases hfamily : Family.ofDatatype c.datatype with
  | entity =>
    have hc : entityPatterns s c scope = _ := entityPatterns_regardless hr
    have hd : entityPatterns s { c with value } scope = _ := entityPatterns_regardless hr
    exact hc.trans hd.symm
  | quantity => exact (quantityPatterns_regardless hr value).symm
  | time => exact (timePatterns_regardless hr value).symm
  | text => simp [hfamily] at hf
  | existence => simp [hfamily] at hf

/-- Only an entity that should match, or should not, is looked at for its subclasses. -/
theorem Condition.patterns_subclasses (subclasses : Bool)
    (h : ¬ (c.datatype = .item ∧ (c.relation = .matching ∨ c.relation = .notMatching))) :
    c.patterns s scope = { c with subclasses }.patterns s scope := by
  have htail : subclassTail s { c with subclasses } = .ok [] := subclassTail_eq_nil h
  have hentity : entityPatterns s { c with subclasses } scope = entityPatterns s c scope := by
    unfold entityPatterns
    rw [htail, subclassTail_eq_nil h]
    rfl
  rw [Condition.patterns_eq, Condition.patterns_eq]
  cases hf : Family.ofDatatype c.datatype with
  | entity => exact hentity.symm
  | text => rfl
  | quantity => rfl
  | time => rfl
  | existence => rfl

/-- **One change.**  The condition builds what it did before, and counts as it did before. -/
theorem Condition.Change.alike {d : Condition} (h : c.Change d) : c.Alike s s d := by
  cases h with
  | value value hr hd =>
    exact ⟨fun scope => patterns_value value hr hd, rfl, rfl, rfl, rfl⟩
  | text other hr hf hv =>
    refine ⟨fun scope => ?_, rfl, rfl, rfl, rfl⟩
    rw [Condition.patterns_eq, Condition.patterns_eq]
    simp only [hf]
    rw [textPatterns_regardless hr hv, textPatterns_regardless (by exact hr) rfl]
    rfl
  | unreadValue value hd =>
    refine ⟨fun scope => ?_, rfl, rfl, rfl, rfl⟩
    rw [Condition.patterns_eq, Condition.patterns_eq]
    simp only [Family.ofDatatype_of_not_isSupported hd]
    rfl
  | unreadRelation relation hd hr hr' =>
    have hany : c.usesAnyValue = { c with relation }.usesAnyValue := by
      simp [Condition.usesAnyValue, hd]
    refine ⟨fun scope => ?_, rfl, rfl, hany, rfl⟩
    rw [Condition.patterns_eq, Condition.patterns_eq]
    simp only [Family.ofDatatype_of_not_isSupported hd]
    rw [existencePatterns_eq hr, existencePatterns_eq (by exact hr')]
  | subclasses subclasses hfree =>
    exact ⟨fun scope => patterns_subclasses subclasses hfree, rfl, rfl, rfl, rfl⟩

theorem Condition.Alike.refl (c : Condition) : c.Alike s s c :=
  ⟨fun _ => rfl, rfl, rfl, rfl, rfl⟩

theorem Condition.Alike.trans {d e : Condition} (hcd : c.Alike s s d) (hde : d.Alike s s e) :
    c.Alike s s e where
  patterns scope := (hcd.patterns scope).trans (hde.patterns scope)
  isOr := hcd.isOr.trans hde.isOr
  property := hcd.property.trans hde.property
  usesAnyValue := hcd.usesAnyValue.trans hde.usesAnyValue
  references := hcd.references.trans hde.references

/-- Changes one after the other. -/
theorem Condition.alike_of_changes {d : Condition} (h : Relation.ReflTransGen Change c d) :
    c.Alike s s d := by
  induction h with
  | refl => exact .refl c
  | tail _ hstep ih => exact ih.trans hstep.alike

end

namespace Query

/-- **Fields that do not matter.**  If the conditions of two queries differ by changes that do not
matter, however many and in however many conditions, both compile to the same query, or fail by the
same error. -/
theorem compile_of_changes (s : Settings) {q q' : Query} (hlimit : q.limit = q'.limit)
    (hlabels : q.omitLabels = q'.omitLabels)
    (h : List.Forall₂ (Relation.ReflTransGen Condition.Change) q.conditions q'.conditions) :
    q.compile s = q'.compile s := by
  have halike : List.Forall₂ (Condition.Alike s s) q.conditions q'.conditions :=
    h.imp fun _ _ => Condition.alike_of_changes
  exact compile_congr rfl rfl hlimit hlabels halike

/-- An item that need not be named, a place of which no more is asked than that it is known, and the
alternative of a text that is not looked at. -/
def unread (item place : Value) (text : String) (relation : Relation) (subclasses : Bool) :
    Query where
  conditions :=
    [ ⟨"P31", .item, item, .regardless, .regardless, subclasses, false, none⟩,
      ⟨"P625", .unsupported "globe-coordinate", place, relation, .present, subclasses, true,
        some .and⟩,
      ⟨"P1476", .string, .text text, .regardless, .regardless, subclasses, false, some .or⟩ ]
  limit := some 5
  omitLabels := false

/-- All of that may be changed at once. -/
theorem compile_of_changes_unread :
    (unread (.entity "Q5") (.text "") "a" .matching true).compile {} =
      (unread (.text "x") (.time "+1-00" 9) "b" .notMatching false).compile {} := by
  refine compile_of_changes {} rfl rfl (.cons ?_ (.cons ?_ (.cons ?_ .nil)))
  · exact .tail (.single (.value (.text "x") rfl (by decide))) (.subclasses false (by decide))
  · exact .tail (.tail (.single (.unreadValue (.time "+1-00" 9) rfl))
      (.unreadRelation .notMatching rfl (by decide) (by decide))) (.subclasses false (by decide))
  · exact .tail (.single (.text "b" rfl rfl rfl)) (.subclasses false (by decide))

end Query

/-! ## Settings that are not looked at -/

namespace Condition

/-- The condition compares with an amount that has a unit. -/
def ConvertsUnit (c : Condition) : Prop :=
  c.datatype = .quantity ∧ (∃ amount unit, c.value = .quantity amount (some unit)) ∧
    c.relation ≠ .regardless

/-- The subclasses of the entity count. -/
def CountsSubclasses (c : Condition) : Prop :=
  c.datatype = .item ∧ c.subclasses = true ∧ (∃ id, c.value = .entity id) ∧
    (c.relation = .matching ∨ c.relation = .notMatching)

end Condition

section

variable {s s' : Settings} {c : Condition} {scope : Scope}

theorem subclassTail_congr (hnamespaces : s.namespaces = s'.namespaces)
    (h : c.CountsSubclasses → s.subclassProperty c.property = s'.subclassProperty c.property)
    {id : String} (hv : c.value = .entity id) : subclassTail s c = subclassTail s' c := by
  unfold subclassTail
  by_cases hcount : c.datatype = .item ∧ c.subclasses = true ∧
      (c.relation = .matching ∨ c.relation = .notMatching)
  · obtain ⟨hd, hsubclasses, hr⟩ := hcount
    rw [h ⟨hd, hsubclasses, ⟨id, hv⟩, hr⟩, hnamespaces]
  · rw [if_neg hcount, if_neg hcount]

theorem entityPatterns_congr (hnamespaces : s.namespaces = s'.namespaces)
    (h : c.CountsSubclasses → s.subclassProperty c.property = s'.subclassProperty c.property) :
    entityPatterns s c scope = entityPatterns s' c scope := by
  unfold entityPatterns
  cases hv : c.value with
  | entity id => simp only [subclassTail_congr hnamespaces h hv, hnamespaces]
  | _ =>
    -- an entity is missing, and the settings cannot change that
    rw [hnamespaces]
    cases c.relation <;> rfl

theorem quantityPatterns_congr (hnamespaces : s.namespaces = s'.namespaces)
    (hd : c.datatype = .quantity)
    (h : c.ConvertsUnit → s.unitConversion = s'.unitConversion) :
    quantityPatterns s c scope = quantityPatterns s' c scope := by
  have hpositive : positiveQuantityPatterns s c scope = positiveQuantityPatterns s' c scope := by
    unfold positiveQuantityPatterns
    split
    · rw [hnamespaces]
    · rw [hnamespaces]
    · rename_i amount unit hv hr
      have hconverts : c.ConvertsUnit := ⟨hd, ⟨amount, unit, hv⟩, hr⟩
      rw [h hconverts, hnamespaces]
    · rfl
  unfold quantityPatterns
  rw [hpositive]

/-- **One condition** builds the same under two settings that agree on what it looks up. -/
theorem Condition.alike_of_settings (hnamespaces : s.namespaces = s'.namespaces)
    (hconversion : c.ConvertsUnit → s.unitConversion = s'.unitConversion)
    (hsubclass : c.CountsSubclasses →
      s.subclassProperty c.property = s'.subclassProperty c.property) :
    c.Alike s s' c := by
  refine ⟨fun scope => ?_, rfl, rfl, rfl, rfl⟩
  rw [Condition.patterns_eq, Condition.patterns_eq]
  cases hf : Family.ofDatatype c.datatype with
  | text => simp only [textPatterns, hnamespaces]
  | entity => exact entityPatterns_congr hnamespaces hsubclass
  | quantity =>
    exact quantityPatterns_congr hnamespaces (Family.ofDatatype_eq_quantity hf) hconversion
  | time => simp only [timePatterns, hnamespaces]
  | existence => simp only [existencePatterns, hnamespaces]

end

namespace Query

/-- **Settings are looked at only where they are needed.**  Two settings of the same namespaces and
the same language of labels give the same result if they agree on the conversion property, or no
amount with a unit is compared, and if they agree on the subclass property of every condition in
which subclasses count. -/
theorem compile_of_settings {s s' : Settings} (q : Query)
    (hnamespaces : s.namespaces = s'.namespaces) (hlanguage : s.labelLanguage = s'.labelLanguage)
    (hconversion : s.unitConversion = s'.unitConversion ∨ ∀ c ∈ q.conditions, ¬ c.ConvertsUnit)
    (hsubclass : ∀ c ∈ q.conditions, c.CountsSubclasses →
      s.subclassProperty c.property = s'.subclassProperty c.property) :
    q.compile s = q.compile s' := by
  refine compile_congr hnamespaces hlanguage rfl rfl (List.forall₂_same.2 fun c hc => ?_)
  refine Condition.alike_of_settings hnamespaces (fun hconverts => ?_) (hsubclass c hc)
  rcases hconversion with hsame | hnone
  · exact hsame
  · exact absurd hconverts (hnone c hc)

/-- An item with its subclasses, and an amount without a unit. -/
def heightOfSettlements : Query where
  conditions :=
    [ ⟨"P31", .item, .entity "Q486972", .matching, .regardless, true, false, none⟩,
      ⟨"P2044", .quantity, .quantity (.zero false) none, .moreThan, .regardless, false, false,
        some .and⟩ ]
  limit := none
  omitLabels := true

/-- Neither a conversion property nor the subclass property of another property matters to them. -/
theorem compile_of_settings_heightOfSettlements :
    heightOfSettlements.compile { subclassProperties := [("default", "P279")] } =
      heightOfSettlements.compile
        { conversionProperty := some "P2370",
          subclassProperties := [("P361", "P527"), ("default", "P279")] } := by
  refine compile_of_settings heightOfSettlements rfl rfl (.inr ?_) ?_
  · rintro c hc ⟨-, ⟨amount, unit, hv⟩, -⟩
    simp only [heightOfSettlements, List.mem_cons, List.not_mem_nil, or_false] at hc
    rcases hc with rfl | rfl <;> simp at hv
  · rintro c hc ⟨hd, -⟩
    simp only [heightOfSettlements, List.mem_cons, List.not_mem_nil, or_false] at hc
    rcases hc with rfl | rfl
    · rfl
    · simp at hd

end Query

end WikibaseQuery

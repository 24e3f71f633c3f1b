import WikibaseQuery.Proofs.Assembly

/-!
# Why queries cannot be compiled

Every family checks its conditions in an order of its own.  Here the checks are written down beside
each other, as lists of what a condition needs, and compiling is compared with them.

* `Condition.needs` — what a condition needs, in the order in which it is checked, each with the
  error where it is missing;
* `Condition.failure_patterns` — a condition at a position fails by the first need that is not met;
* `failure_buildElements` — the walk over the elements fails by the first condition that does;
* `Query.compile_outcome` — which queries compile, and which error the others have.
-/

namespace WikibaseQuery

/-! ## What a condition needs -/

/-- Something that a condition needs, with the error where it is missing. -/
structure Need where
  met : Bool
  error : CompileError

/-- The error of a need that is not met. -/
def Need.fault (need : Need) : Option CompileError := if need.met then none else some need.error

theorem Need.fault_of_met {need : Need} (h : need.met = true) : need.fault = none := if_pos h

theorem Need.fault_of_unmet {need : Need} (h : need.met = false) :
    need.fault = some need.error := by
  simp [fault, h]

/-- Whether the relation compares by an order. -/
def Relation.isOrder : Relation → Bool
  | .lessThan | .moreThan => true
  | .matching | .notMatching | .regardless => false

/-- A conversion property that is not empty, where the amount has a unit. -/
def needsConversionProperty (s : Settings) (unit : Option String) : Need where
  met := unit = none || s.conversionProperty.any (· ≠ "")
  error := .missingSetting .conversionProperty

/-- The precision of a year, a month or a day. -/
def needsPrecision (number : UInt8) : Need where
  met := number = 9 || number = 10 || number = 11
  error := .unexpectedPrecision number

/-- A following year or month, where the instant is given to the year or the month. -/
def needsFollowing (instant : String) (number : UInt8) : Need where
  met :=
    (number ≠ 9 || (followingYear? instant.toList).isSome) &&
      (number ≠ 10 || (followingMonth? instant.toList).isSome)
  error := .malformedDate instant

/-- The error of the first need that is not met. -/
def firstFault (needs : List Need) : Option CompileError := needs.findSome? Need.fault

@[simp] theorem firstFault_nil : firstFault [] = none := rfl

@[simp] theorem firstFault_cons (need : Need) (needs : List Need) :
    firstFault (need :: needs) = need.fault.or (firstFault needs) := by
  rw [firstFault, List.findSome?_cons]
  cases need.fault <;> rfl

theorem firstFault_eq_none_iff {needs : List Need} :
    firstFault needs = none ↔ ∀ need ∈ needs, need.met = true := by
  simp [firstFault, Need.fault]

namespace Condition

/-- A value of the kind that goes with the datatype. -/
def needsKind (c : Condition) (expected : String) : Need where
  met := c.value.kind = expected
  error := .unexpectedValue c.datatype expected c.value.kind

/-- A relation that does without an order. -/
def needsNoOrder (c : Condition) : Need where
  met := !c.relation.isOrder
  error := .unsupportedRelation c.datatype c.relation

/-- A subclass property of the property or for all others, for items whose subclasses count where
an entity is matched. -/
def needsSubclassProperty (s : Settings) (c : Condition) : Need where
  met :=
    !(c.datatype = .item && c.subclasses && c.value.kind = "entity reference" &&
        (c.relation = .matching || c.relation = .notMatching)) ||
      (s.subclassProperties.lookup c.property).isSome ||
      (s.subclassProperties.lookup "default").isSome
  error := .missingSetting (.subclassProperty c.property)

/-- What the condition needs, in the order in which it is checked. -/
def needs (s : Settings) (c : Condition) : List Need :=
  match Family.ofDatatype c.datatype with
  | .text => [c.needsKind "string", c.needsNoOrder]
  | .entity =>
    (if c.relation = .regardless then [] else [c.needsKind "entity reference"]) ++
      [c.needsSubclassProperty s, c.needsNoOrder]
  | .quantity =>
    if c.relation = .regardless then []
    else
      c.needsKind "quantity value" ::
        match c.value with
        | .quantity _ unit => [needsConversionProperty s unit]
        | _ => []
  | .time =>
    if c.relation = .regardless then []
    else
      c.needsKind "time value" ::
        match c.value with
        | .time instant number => [needsPrecision number, needsFollowing instant number]
        | _ => []
  | .existence => [c.needsNoOrder]

/-- Everything that the condition needs is there. -/
def Valid (s : Settings) (c : Condition) : Prop := ∀ need ∈ c.needs s, need.met = true

/-- The error of the first need that is not met. -/
def fault (s : Settings) (c : Condition) : Option CompileError := firstFault (c.needs s)

end Condition

/-! ## Steps that fail -/

/-- The error of a step, if it fails. -/
def failure {ε α : Type} : Except ε α → Option ε
  | .error e => some e
  | .ok _ => none

section

variable {ε α β : Type}

@[simp] theorem failure_ok (a : α) : failure (.ok a : Except ε α) = none := rfl

@[simp] theorem failure_error (e : ε) : failure (.error e : Except ε α) = some e := rfl

theorem failure_eq_none_iff {step : Except ε α} : failure step = none ↔ ∃ a, step = .ok a := by
  cases step <;> simp [failure]

theorem failure_eq_some_iff {step : Except ε α} {e : ε} :
    failure step = some e ↔ step = .error e := by
  cases step <;> simp [failure]

/-- Of two steps the first failure counts, where the second fails in one way only. -/
theorem failure_bind (first : Except ε α) (next : α → Except ε β) {second : Option ε}
    (h : ∀ a, first = .ok a → failure (next a) = second) :
    failure (first >>= next) = (failure first).or second := by
  cases first with
  | error e => rfl
  | ok a => exact h a rfl

/-- What is done with a result does not make a step fail. -/
theorem failure_map (step : Except ε α) (f : α → β) :
    failure (step >>= fun a => pure (f a)) = failure step := by
  cases step <;> rfl

end

variable {s : Settings} {n : Namespaces} {c : Condition} {scope : Scope} {i : Nat}

/-! ## The families -/

/-- A statement by a term needs a relation without an order. -/
theorem failure_statementPatterns (hi : scope.position = some i) (value : Term) (tail : List Path) :
    failure (statementPatterns n c scope value tail) = c.needsNoOrder.fault := by
  unfold statementPatterns
  rw [Scope.index_eq_ok.2 hi]
  cases hr : c.relation <;>
    simp [statementObject, hr, bind, Except.bind, pure, Except.pure, failure, Need.fault,
      Condition.needsNoOrder, Relation.isOrder]

theorem fault_needsKind {expected : String} (h : c.value.kind = expected) :
    (c.needsKind expected).fault = none :=
  Need.fault_of_met (by simpa [Condition.needsKind] using h)

theorem fault_needsKind_of_ne {expected : String} (h : c.value.kind ≠ expected) :
    (c.needsKind expected).fault =
      some (.unexpectedValue c.datatype expected c.value.kind) :=
  Need.fault_of_unmet (by simpa [Condition.needsKind] using h)

theorem failure_textPatterns (hf : Family.ofDatatype c.datatype = .text)
    (hi : scope.position = some i) : failure (textPatterns s c scope) = c.fault s := by
  unfold textPatterns Condition.fault Condition.needs
  rw [hf]
  cases hv : c.value with
  | text text =>
    have hkind : c.value.kind = "string" := by rw [hv]; rfl
    simp [failure_statementPatterns hi, fault_needsKind hkind]
  | entity _ | time _ _ | quantity _ _ =>
    have hkind : c.value.kind ≠ "string" := by simp [hv, Value.kind]
    simp [fault_needsKind_of_ne hkind, hv]

/-- The settings fail to name a subclass property exactly where one is needed. -/
theorem failure_subclassTail (hv : c.value.kind = "entity reference") :
    failure (subclassTail s c) = (c.needsSubclassProperty s).fault := by
  unfold subclassTail Condition.needsSubclassProperty Need.fault Settings.subclassProperty
  by_cases hwanted : c.datatype = .item ∧ c.subclasses = true ∧
      (c.relation = .matching ∨ c.relation = .notMatching)
  · rw [if_pos hwanted]
    obtain ⟨hd, hs, hr⟩ := hwanted
    have hrelation : (decide (c.relation = .matching) || decide (c.relation = .notMatching)) =
        true := by simpa using hr
    cases hproperty : s.subclassProperties.lookup c.property <;>
      cases hdefault : s.subclassProperties.lookup "default" <;>
      simp [Settings.defaultEntry, hdefault, hd, hs, hrelation, hv]
  · rw [if_neg hwanted]
    have hfree : (decide (c.datatype = .item) && c.subclasses &&
        (decide (c.relation = .matching) || decide (c.relation = .notMatching))) = false := by
      simpa [and_assoc] using hwanted
    simp [hv, hfree]

theorem failure_entityPatterns (hf : Family.ofDatatype c.datatype = .entity)
    (hi : scope.position = some i) : failure (entityPatterns s c scope) = c.fault s := by
  unfold entityPatterns Condition.fault Condition.needs
  rw [hf]
  cases hv : c.value with
  | entity id =>
    have hkind : c.value.kind = "entity reference" := by rw [hv]; rfl
    rw [failure_bind _ _ fun tail _ => failure_statementPatterns hi _ tail,
      failure_subclassTail hkind]
    by_cases hr : c.relation = .regardless <;> simp [hr, fault_needsKind hkind]
  | text _ | time _ _ | quantity _ _ =>
    -- without an entity any value will do, and no subclasses are asked for
    have hkind : c.value.kind ≠ "entity reference" := by simp [hv, Value.kind]
    have hsubclass : (c.needsSubclassProperty s).fault = none :=
      Need.fault_of_met (by simp [Condition.needsSubclassProperty, hkind])
    cases hr : c.relation <;>
      simp [hsubclass, failure_statementPatterns hi, fault_needsKind_of_ne hkind, hv]

/-! ## Quantities and points in time -/

/-- The settings fail to name a conversion property exactly where it is missing or empty. -/
theorem unitConversion_eq (s : Settings) (unit : String) :
    (∃ property, s.unitConversion = .ok property ∧
      (needsConversionProperty s (some unit)).fault = none) ∨
    (s.unitConversion = .error .conversionProperty ∧
      (needsConversionProperty s (some unit)).fault =
        some (.missingSetting .conversionProperty)) := by
  unfold Settings.unitConversion needsConversionProperty Need.fault
  cases s.conversionProperty with
  | none => simp
  | some property => by_cases h : property = "" <;> simp [h]

theorem failure_quantityPatterns (hf : Family.ofDatatype c.datatype = .quantity)
    (hi : scope.position = some i) : failure (quantityPatterns s c scope) = c.fault s := by
  have hnegate : failure (quantityPatterns s c scope) =
      failure (positiveQuantityPatterns s c scope) := failure_map _ _
  rw [hnegate, Condition.fault, Condition.needs, hf]
  by_cases hr : c.relation = .regardless
  · simp [positiveQuantityPatterns, Scope.index_eq_ok.2 hi, hr, bind, Except.bind, pure,
      Except.pure]
  cases hv : c.value with
  | quantity amount unit =>
    have hkind : c.value.kind = "quantity value" := by rw [hv]; rfl
    cases unit with
    | none =>
      have hneed : (needsConversionProperty s none).fault = none := Need.fault_of_met rfl
      rw [positiveQuantityPatterns_plain hr hv hi]
      simp [hr, fault_needsKind hkind, hneed]
    | some unit =>
      rw [positiveQuantityPatterns_converted hr hv hi]
      rcases unitConversion_eq s unit with ⟨property, hproperty, hneed⟩ | ⟨hproperty, hneed⟩
      · simp [hr, fault_needsKind hkind, hproperty, hneed]
      · simp [hr, fault_needsKind hkind, hproperty, hneed]
  | text _ | entity _ | time _ _ =>
    have hkind : c.value.kind ≠ "quantity value" := by simp [hv, Value.kind]
    simp [positiveQuantityPatterns, hr, fault_needsKind_of_ne hkind, hv]

/-- An instant to the day is bound or compared, as long as not any instant will do. -/
theorem dayPatterns_ok (hr : c.relation ≠ .regardless) (value : String) :
    ∃ core, dayPatterns n c value i = .ok core := by
  unfold dayPatterns dayPattern
  cases hrelation : c.relation <;> simp_all [bind, Except.bind, pure, Except.pure]

theorem intervalPatterns_ok (hr : c.relation ≠ .regardless) (value following : String)
    (number : UInt8) : ∃ core, intervalPatterns n c value following number i = .ok core := by
  unfold intervalPatterns intervalPattern
  cases hrelation : c.relation <;> simp_all [bind, Except.bind, pure, Except.pure]

theorem failure_instantOr (instant : String) (following : Option (List Char)) :
    failure (instantOr instant following) =
      if following.isSome then none else some (.malformedDate instant) := by
  cases following <;> rfl

/-- An instant needs a precision, and to the month or the year one that follows. -/
theorem failure_positiveTimePatterns_time {value : String} {number : UInt8}
    (hr : c.relation ≠ .regardless) (hv : c.value = .time value number)
    (hi : scope.position = some i) :
    failure (positiveTimePatterns n c scope) =
      firstFault [needsPrecision number, needsFollowing value number] := by
  obtain ⟨day, hday⟩ := dayPatterns_ok (n := n) (i := i) hr value
  have hinterval : ∀ following, failure (intervalPatterns n c value following number i >>=
      fun ps => pure (i, ps)) = none := by
    intro following
    obtain ⟨core, hcore⟩ := intervalPatterns_ok (n := n) (i := i) hr value following number
    rw [failure_map, hcore]
    rfl
  rw [positiveTimePatterns_time hr hv hi, firstFault_cons, firstFault_cons, firstFault_nil,
    Option.or_none]
  unfold Precision.ofNumber needsPrecision needsFollowing Need.fault
  by_cases h11 : number = 11
  · subst h11
    simp [hday, bind, Except.bind, pure, Except.pure]
  by_cases h10 : number = 10
  · subst h10
    have hmonth := failure_bind (followingMonth value) _ fun following _ => hinterval following
    rw [Option.or_none, followingMonth, failure_instantOr] at hmonth
    simpa [bind, Except.bind, followingMonth] using hmonth
  by_cases h9 : number = 9
  · subst h9
    have hyear := failure_bind (followingYear value) _ fun following _ => hinterval following
    rw [Option.or_none, followingYear, failure_instantOr] at hyear
    simpa [bind, Except.bind, followingYear] using hyear
  · simp [h11, h10, h9, bind, Except.bind]

theorem failure_timePatterns (hf : Family.ofDatatype c.datatype = .time)
    (hi : scope.position = some i) : failure (timePatterns s c scope) = c.fault s := by
  have hpositive : failure (timePatterns s c scope) =
      failure (positiveTimePatterns s.namespaces c scope) := failure_map _ _
  rw [hpositive, Condition.fault, Condition.needs, hf]
  by_cases hr : c.relation = .regardless
  · simp [positiveTimePatterns, Scope.index_eq_ok.2 hi, hr, bind, Except.bind, pure, Except.pure]
  cases hv : c.value with
  | time value number =>
    have hkind : c.value.kind = "time value" := by rw [hv]; rfl
    rw [failure_positiveTimePatterns_time hr hv hi]
    simp [hr, fault_needsKind hkind]
  | text _ | entity _ | quantity _ _ =>
    have hkind : c.value.kind ≠ "time value" := by simp [hv, Value.kind]
    simp [positiveTimePatterns, hr, fault_needsKind_of_ne hkind, hv]

/-! ## Mere existence, and all conditions -/

theorem failure_existencePatterns (hf : Family.ofDatatype c.datatype = .existence)
    (hi : scope.position = some i) : failure (existencePatterns s c scope) = c.fault s := by
  rw [Condition.fault, Condition.needs, hf]
  unfold existencePatterns
  cases hr : c.relation <;>
    simp [failure_statementPatterns hi, Condition.needsNoOrder, Relation.isOrder, Need.fault, hr]

/-- **Why a condition fails.**  A condition at a position fails by the first need that is not met,
and builds if all are. -/
theorem Condition.failure_patterns (hi : scope.position = some i) :
    failure (c.patterns s scope) = c.fault s := by
  rw [Condition.patterns_eq]
  cases hf : Family.ofDatatype c.datatype with
  | text => exact failure_textPatterns hf hi
  | entity => exact failure_entityPatterns hf hi
  | quantity => exact failure_quantityPatterns hf hi
  | time => exact failure_timePatterns hf hi
  | existence => exact failure_existencePatterns hf hi

/-! ## The walk over the elements -/

section

variable (build : Nat → Condition → Except CompileError (List Pattern))

theorem failure_buildEach (cs : List Condition) (i : Nat) :
    failure (buildEach build i cs) =
      (cs.zipIdx i).findSome? fun m => failure (build m.2 m.1) := by
  induction cs generalizing i with
  | nil => rfl
  | cons c cs ih =>
    rw [buildEach, failure_bind _ _ fun _ _ => failure_map _ _, ih, List.zipIdx_cons,
      List.findSome?_cons]
    cases failure (build i c) <;> rfl

/-- The walk fails by the first member that fails at its position. -/
theorem failure_buildElements (es : List (Element Condition)) (i : Nat) :
    failure (buildElements build i es) =
      ((es.flatMap Element.members).zipIdx i).findSome? fun m => failure (build m.2 m.1) := by
  induction es generalizing i with
  | nil => rfl
  | cons e es ih =>
    rw [List.flatMap_cons, List.zipIdx_append, List.findSome?_append]
    cases e with
    | single c =>
      rw [buildElements, failure_bind _ _ fun _ _ => failure_map _ _, ih]
      simp [Element.members]
    | group cs =>
      rw [buildElements, failure_bind _ _ fun _ _ => failure_map _ _, ih, failure_buildEach]
      rfl

end

/-! ## Queries -/

namespace Condition

/-- All of a condition but the constraint on references, the negation, and how it is joined with the
one before it. -/
def subject (c : Condition) : String × Datatype × Value × Relation × Bool :=
  (c.property, c.datatype, c.value, c.relation, c.subclasses)

/-- A plain condition on a subject. -/
def ofSubject : String × Datatype × Value × Relation × Bool → Condition
  | (property, datatype, value, relation, subclasses) =>
    ⟨property, datatype, value, relation, .regardless, subclasses, false, none⟩

/-- Nothing but the subject decides about a failure. -/
theorem fault_ofSubject (s : Settings) (c : Condition) :
    (ofSubject c.subject).fault s = c.fault s := rfl

end Condition

namespace Query

/-- A query fails by the first condition that does. -/
theorem failure_compile (s : Settings) (q : Query) :
    failure (q.compile s) = q.conditions.findSome? (Condition.fault s) := by
  have hmembers : ∀ m : Condition × Nat,
      failure (m.1.patterns s (m.1.scope q.conditions m.2)) = m.1.fault s :=
    fun m => Condition.failure_patterns rfl
  have hfirst : q.conditions.findSome? (Condition.fault s) =
      q.conditions.zipIdx.findSome? fun m => m.1.fault s := by
    have hmap := List.findSome?_map (f := Prod.fst) (p := Condition.fault s)
      (l := q.conditions.zipIdx)
    rwa [List.zipIdx_map_fst] at hmap
  have hitems : failure (q.compile s) = failure (q.compileItems s) := failure_map _ _
  rw [hitems, compileItems, failure_map, failure_buildElements, flatMap_members_grouping, hfirst]
  simp only [hmembers]

/-- **Which queries compile, and why the others do not.**  A query compiles exactly if everything
that its conditions need is there.  Otherwise its error is that of the first condition which lacks
something, namely of the first thing that it lacks.  The limit, the labels, negation, constraints on
references and connectives have no part in that. -/
theorem compile_outcome (s : Settings) (q : Query) :
    ((∃ answer, q.compile s = .ok answer) ↔ ∀ c ∈ q.conditions, c.Valid s) ∧
    (∀ e, q.compile s = .error e ↔
      ∃ before c after, q.conditions = before ++ c :: after ∧ (∀ d ∈ before, d.Valid s) ∧
        c.fault s = some e) ∧
    ∀ q' : Query, q'.conditions.map Condition.subject = q.conditions.map Condition.subject →
      ∀ e, q'.compile s = .error e ↔ q.compile s = .error e := by
  have hvalid : ∀ c : Condition, c.fault s = none ↔ c.Valid s := fun c => firstFault_eq_none_iff
  refine ⟨?_, fun e => ?_, fun q' hq e => ?_⟩
  · rw [← failure_eq_none_iff, failure_compile, List.findSome?_eq_none_iff]
    simp only [hvalid]
  · rw [← failure_eq_some_iff, failure_compile, List.findSome?_eq_some_iff]
    simp only [hvalid]
    constructor
    · rintro ⟨before, c, after, hq, hc, hbefore⟩
      exact ⟨before, c, after, hq, hbefore, hc⟩
    · rintro ⟨before, c, after, hq, hbefore, hc⟩
      exact ⟨before, c, after, hq, hc, hbefore⟩
  · have hsubjects : ∀ cs : List Condition, cs.findSome? (Condition.fault s) =
        (cs.map Condition.subject).findSome? fun subject =>
          (Condition.ofSubject subject).fault s := by
      intro cs
      simp only [List.findSome?_map, Function.comp_def, Condition.fault_ofSubject]
    rw [← failure_eq_some_iff, ← failure_eq_some_iff, failure_compile, failure_compile,
      hsubjects, hsubjects, hq]

/-- A text under `P1`, and a point in time to the decade under `P2`. -/
def textAndDecade (negate : Bool) (references : References) (connective : Connective)
    (limit : Option UInt64) : Query where
  conditions :=
    [ ⟨"P1", .string, .text "a", .matching, references, false, negate, none⟩,
      ⟨"P2", .time, .time "+1780-00-00T00:00:00Z" 8, .lessThan, .regardless, false, false,
        some connective⟩ ]
  limit := limit
  omitLabels := true

/-- The text has all it needs and the decade does not, however the two are joined, and whether or
not the text is ruled out. -/
theorem compile_outcome_textAndDecade :
    (textAndDecade true .absent .or (some 5)).conditions.map Condition.subject =
      (textAndDecade false .regardless .and none).conditions.map Condition.subject ∧
    (textAndDecade true .absent .or (some 5)).compile {} = .error (.unexpectedPrecision 8) := by
  have houtcome := compile_outcome {} (textAndDecade false .regardless .and none)
  refine ⟨rfl, (houtcome.2.2 _ rfl _).2 ((houtcome.2.1 _).2 ⟨[_], _, [], rfl, ?_, by decide⟩)⟩
  exact List.forall_mem_singleton.2 (by unfold Condition.Valid; decide)

end Query

end WikibaseQuery

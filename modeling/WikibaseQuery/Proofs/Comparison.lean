import Mathlib.Order.Lattice
import WikibaseQuery.Proofs.Families

/-!
# What the filters on values mean

A filter compares the value that a statement has with the value that a condition names.  Here the
filters are evaluated, over any linear order of values, and their truth is compared with the order.

* `Expression.truth` — the truth of an expression in one solution; an operation on something that
  has no value has none either;
* `Condition.valueFilter` — the filter on the value among the patterns that are built for a
  condition, however deep these put it;
* `Compared` — which variable that filter is about, and what it is compared with;
* `coherentUserQuantity_eq_times` — what a converted amount is;
* `range_filters_iff`, `notMatching_complements_iff` — the values that the filters let through.
-/

namespace WikibaseQuery

universe u

/-! ## Evaluation -/

/-- What stands behind the terms in one solution. -/
structure Reading (α : Type u) where
  /-- The value that a variable is bound to, or that a literal denotes. -/
  term : Term → Option α
  /-- The product of two values. -/
  times : α → α → Option α

/-- A conjunction is false as soon as one side is, whether or not the other one has a truth. -/
def conjunction : Option Bool → Option Bool → Option Bool
  | some false, _ | _, some false => some false
  | some true, some true => some true
  | _, _ => none

/-- A disjunction is true as soon as one side is, whether or not the other one has a truth. -/
def disjunction : Option Bool → Option Bool → Option Bool
  | some true, _ | _, some true => some true
  | some false, some false => some false
  | _, _ => none

section

variable {α : Type u} [LinearOrder α]

/-- The comparison that an operator makes, if it makes one. -/
def Operator.compare? : Operator → Option (α → α → Bool)
  | .equal => some fun a b => decide (a = b)
  | .notEqual => some fun a b => decide (a ≠ b)
  | .less => some fun a b => decide (a < b)
  | .greater => some fun a b => decide (b < a)
  | .lessOrEqual => some fun a b => decide (a ≤ b)
  | .greaterOrEqual => some fun a b => decide (b ≤ a)
  | .and | .or | .times => none

namespace Expression

/-- The value of a term or a product.  Comparisons and tests have none. -/
def value (ρ : Reading α) : Expression → Option α
  | .term t => ρ.term t
  | .binary operator left right =>
    match operator with
    | .times => (left.value ρ).bind fun a => (right.value ρ).bind fun b => ρ.times a b
    | _ => none
  | .existence _ _ => none

/-- The truth of an expression.  What is no comparison of values has none, nor have tests for
existence, which are not about values. -/
def truth (ρ : Reading α) : Expression → Option Bool
  | .term _ => none
  | .binary operator left right =>
    match operator with
    | .and => conjunction (left.truth ρ) (right.truth ρ)
    | .or => disjunction (left.truth ρ) (right.truth ρ)
    | _ => operator.compare?.bind fun compare =>
        (left.value ρ).bind fun a => (right.value ρ).map (compare a)
  | .existence _ _ => none

end Expression

end

/-! ## The filter on the value -/

mutual

/-- The comparisons that a pattern filters by, also within groups and what is taken away.  Tests for
existence are none. -/
def Pattern.comparisons : Pattern → List Expression
  | .filter (.binary operator left right) => [.binary operator left right]
  | .minus patterns => comparisonsIn patterns
  | .group patterns => comparisonsIn patterns
  | _ => []

/-- The comparisons that patterns filter by, in order. -/
def comparisonsIn : List Pattern → List Expression
  | [] => []
  | p :: ps => p.comparisons ++ comparisonsIn ps

end

theorem comparisonsIn_append (ps qs : List Pattern) :
    comparisonsIn (ps ++ qs) = comparisonsIn ps ++ comparisonsIn qs := by
  induction ps with
  | nil => rfl
  | cons p ps ih =>
    rw [List.cons_append, comparisonsIn, comparisonsIn, ih, List.append_assoc]

@[simp] theorem comparisonsIn_negateIf (negate : Bool) (ps : List Pattern) :
    comparisonsIn (negateIf negate ps) = comparisonsIn ps := by
  cases negate with
  | false => rfl
  | true => simp [negateIf, comparisonsIn, Pattern.comparisons]

@[simp] theorem comparisonsIn_referenceFilter (n : Namespaces) (references : References)
    (statement : Variable) : comparisonsIn (referenceFilter n references statement) = [] := by
  cases references <;> simp [referenceFilter, comparisonsIn, Pattern.comparisons]

@[simp] theorem comparisonsIn_withReferences (n : Namespaces) (references : References)
    (statement : Variable) (ps : List Pattern) :
    comparisonsIn (withReferences n references statement ps) = comparisonsIn ps := by
  have hnone := comparisonsIn_referenceFilter n references statement
  unfold withReferences
  split
  · rfl
  · rw [comparisonsIn, Pattern.comparisons, comparisonsIn_append, hnone, comparisonsIn]
    simp

namespace Condition

/-- The filter on the value that is built for a condition with the given relation: the last of the
comparisons, since a test of the precision comes before it. -/
def valueFilter (s : Settings) (c : Condition) (scope : Scope) (relation : Relation) :
    Option Expression :=
  match { c with relation }.patterns s scope with
  | .ok ps => (comparisonsIn ps).getLast?
  | .error _ => none

/-- The truth of the filter on the value. -/
def verdict {α : Type u} [LinearOrder α] (s : Settings) (c : Condition) (scope : Scope)
    (ρ : Reading α) (relation : Relation) : Option Bool :=
  (c.valueFilter s scope relation).bind (Expression.truth ρ)

end Condition

/-! ## What is compared with what -/

/-- What a filter compares a stored value with. -/
inductive Bounds where
  /-- One value. -/
  | point (value : Term)
  /-- The instants from the first one on, up to the second one. -/
  | interval (value following : Literal)

/-- What a condition compares: the variable of the stored value, and what it is compared with. -/
inductive Compared (s : Settings) (c : Condition) (i : Nat) : Variable → Bounds → Prop
  /-- An amount without a unit is compared as it stands. -/
  | amount {amount : Binary64} : c.datatype = .quantity → c.value = .quantity amount none →
      Compared s c i (.numbered "numericQuantity" i) (.point (Literal.ofAmount amount))
  /-- A normalized amount is compared with the product of the given amount and the factor. -/
  | converted {amount : Binary64} {unit conversion : String} : c.datatype = .quantity →
      c.value = .quantity amount (some unit) → s.unitConversion = .ok conversion →
      Compared s c i (.numbered "statementQuantity" i)
        (.point (Variable.numbered "coherentUserQuantity" i))
  /-- An instant is compared with one given to the day. -/
  | day {value : String} : c.datatype = .time → c.value = .time value 11 →
      Compared s c i (.underscored c.property i) (.point (Literal.dateTime value))
  /-- An instant is compared with a month or a year. -/
  | interval {value following : String} {number : UInt8} : c.datatype = .time →
      c.value = .time value number → FollowedBy number value following →
      Compared s c i (.underscored c.property i) (.interval (.dateTime value) (.dateTime following))

variable {s : Settings} {c : Condition} {scope : Scope} {i : Nat} {ps : List Pattern}

theorem Condition.patterns_of_quantity (hd : c.datatype = .quantity) :
    c.patterns s scope = quantityPatterns s c scope := by
  rw [Condition.patterns_eq, hd]
  rfl

theorem Condition.patterns_of_time (hd : c.datatype = .time) :
    c.patterns s scope = timePatterns s c scope := by
  rw [Condition.patterns_eq, hd]
  rfl

/-- A condition on a quantity or a point in time that is built compares something, unless any value
will do. -/
theorem compared_of_patterns (hd : c.datatype = .quantity ∨ c.datatype = .time)
    (hr : c.relation ≠ .regardless) (h : c.patterns s scope = .ok ps) :
    ∃ i stored bounds, scope.position = some i ∧ Compared s c i stored bounds := by
  rcases hd with hd | hd
  · rw [Condition.patterns_of_quantity hd] at h
    obtain ⟨i, core, hi, hcore, -⟩ := quantityPatterns_eq_ok.1 h
    cases hcore with
    | anyAmount hany => exact absurd hany hr
    | plain _ hv => exact ⟨i, _, _, hi, .amount hd hv⟩
    | converted _ hv hs => exact ⟨i, _, _, hi, .converted hd hv hs⟩
  · rw [Condition.patterns_of_time hd] at h
    obtain ⟨i, core, hi, hcore, -⟩ := timePatterns_eq_ok.1 h
    cases hcore with
    | anyInstant hany => exact absurd hany hr
    | day _ hv _ => exact ⟨i, _, _, hi, .day hd hv⟩
    | interval _ hv hf _ => exact ⟨i, _, _, hi, .interval hd hv hf⟩

namespace Compared

variable {stored : Variable} {bounds : Bounds}

/-- What is compared does not depend on the relation. -/
theorem withRelation (h : Compared s c i stored bounds) (relation : Relation) :
    Compared s { c with relation } i stored bounds := by
  cases h with
  | amount hd hv => exact .amount hd hv
  | converted hd hv hs => exact .converted hd hv hs
  | day hd hv => exact .day hd hv
  | interval hd hv hf => exact .interval hd hv hf

/-- One value is compared by the operator of the relation.  Instants that should equal a given one
are not compared with it but bound to it. -/
theorem comparisonsIn_point {value : Term} (h : Compared s c i stored (.point value))
    (hi : scope.position = some i) {operator : Operator} (hr : c.relation ≠ .matching)
    (hop : c.relation.comparison = some operator) :
    ∃ ps, c.patterns s scope = .ok ps ∧
      comparisonsIn ps = [.binary operator stored value] := by
  have hany : c.relation ≠ .regardless := by
    intro hany
    rw [hany] at hop
    exact absurd hop (by simp [Relation.comparison])
  cases h with
  | amount hd hv =>
    rw [Condition.patterns_of_quantity hd]
    refine ⟨_, quantityPatterns_eq_ok.2 ⟨i, _, hi, .plain hany hv, rfl⟩, ?_⟩
    simp [plainAmountPatterns, amountFilter, hop, comparisonsIn,
      Pattern.comparisons, Pattern.comparison]
  | converted hd hv hs =>
    rw [Condition.patterns_of_quantity hd]
    refine ⟨_, quantityPatterns_eq_ok.2 ⟨i, _, hi, .converted hany hv hs, rfl⟩, ?_⟩
    simp [convertedAmountPatterns, amountFilter, hop, comparisonsIn,
      Pattern.comparisons, Pattern.comparison]
  | @day text hd hv =>
    have hpattern : dayPattern c (.underscored c.property i) (.dateTime text) =
        .ok (.comparison (Variable.underscored c.property i) operator (Literal.dateTime text)) := by
      unfold dayPattern
      cases hrel : c.relation <;> rw [hrel] at hop <;> cases hop
      case matching => exact absurd hrel hr
      all_goals rfl
    rw [Condition.patterns_of_time hd]
    refine ⟨_, timePatterns_eq_ok.2 ⟨i, _, hi, .day hany hv hpattern, rfl⟩, ?_⟩
    simp [statementValuePatterns, instantPattern, comparisonsIn, Pattern.comparisons,
      Pattern.comparison, Pattern.triple]

/-- An interval is compared after the precision. -/
theorem comparisonsIn_interval {value following : Literal}
    (h : Compared s c i stored (.interval value following)) (hi : scope.position = some i)
    {left right : Expression} {operator : Operator}
    (hpattern : intervalPattern c stored value following = .ok (.comparison left operator right)) :
    ∃ ps precision, c.patterns s scope = .ok ps ∧
      comparisonsIn ps =
        [.binary .greaterOrEqual (Variable.underscored "precision" i) (Literal.decimal precision),
          .binary operator left right] := by
  have hany : c.relation ≠ .regardless := by
    intro hany
    rw [intervalPattern, hany] at hpattern
    exact absurd hpattern (by simp)
  cases h with
  | @interval _ _ number hd hv hf =>
    rw [Condition.patterns_of_time hd]
    have hcore : TimeCore s.namespaces c i _ := .interval hany hv hf hpattern
    refine ⟨_, toString number.toNat, timePatterns_eq_ok.2 ⟨i, _, hi, hcore, rfl⟩, ?_⟩
    simp [statementValuePatterns, precisionPatterns, instantPattern, rangeHint, comparisonsIn,
      Pattern.comparisons, Pattern.comparison, Pattern.triple]

end Compared

/-! ## Verdicts -/

@[simp] theorem conjunction_some (a b : Bool) :
    conjunction (some a) (some b) = some (a && b) := by
  cases a <;> cases b <;> rfl

@[simp] theorem disjunction_some (a b : Bool) :
    disjunction (some a) (some b) = some (a || b) := by
  cases a <;> cases b <;> rfl

section

variable {α : Type u} [LinearOrder α] {ρ : Reading α} {x v f : α}

/-- A comparison of two terms that have values. -/
theorem Expression.truth_binary (operator : Operator) {compare : α → α → Bool} {left right : Term}
    {a b : α} (hop : operator.compare? = some compare) (hleft : ρ.term left = some a)
    (hright : ρ.term right = some b) :
    truth ρ (.binary operator left right) = some (compare a b) := by
  cases operator <;> simp_all [truth, value, Operator.compare?]

/-- Whether the variables that patterns bind have the values that these give them. -/
def Reading.Binds (ρ : Reading α) (ps : List Pattern) : Prop :=
  ∀ target value, Pattern.bind target value ∈ ps → ρ.term target = value.value ρ

omit [LinearOrder α] in
/-- What normalized amounts are compared with is the given amount times the conversion factor. -/
theorem coherentUserQuantity_eq_times {n : Namespaces} {conversion unit : String}
    {amount : Binary64} {a k : α}
    (hbinds : ρ.Binds (convertedAmountPatterns n conversion c amount unit i))
    (ha : ρ.term (Literal.ofAmount amount) = some a)
    (hk : ρ.term (Variable.numbered "conversionFactor" i) = some k) :
    ρ.term (Variable.numbered "coherentUserQuantity" i) = ρ.times a k := by
  have hamount : ρ.term (Variable.numbered "userQuantity" i) = some a := by
    rw [hbinds (.numbered "userQuantity" i) (Literal.ofAmount amount)
      (by simp [convertedAmountPatterns])]
    exact ha
  rw [hbinds (.numbered "coherentUserQuantity" i)
    (.binary .times (Variable.numbered "userQuantity" i) (Variable.numbered "conversionFactor" i))
    (by simp [convertedAmountPatterns])]
  simp [Expression.value, hamount, hk]

namespace Compared

variable {stored : Variable} {value following : Literal} {relation : Relation}

theorem verdict_point {point : Term} (h : Compared s c i stored (.point point))
    (hi : scope.position = some i) (hx : ρ.term stored = some x) (hv : ρ.term point = some v)
    {operator : Operator} {compare : α → α → Bool} (hr : relation ≠ .matching)
    (hop : relation.comparison = some operator) (hcompare : operator.compare? = some compare) :
    c.verdict s scope ρ relation = some (compare x v) := by
  obtain ⟨ps, hps, hfilters⟩ := (h.withRelation relation).comparisonsIn_point hi hr hop
  have hfilter : c.valueFilter s scope relation = some (.binary operator stored point) := by
    rw [Condition.valueFilter, hps]
    simp [hfilters]
  rw [Condition.verdict, hfilter]
  exact Expression.truth_binary operator hcompare hx hv

theorem verdict_interval (h : Compared s c i stored (.interval value following))
    (hi : scope.position = some i) {left right : Expression} {operator : Operator}
    (hpattern : intervalPattern { c with relation } stored value following =
      .ok (.comparison left operator right)) :
    c.verdict s scope ρ relation = (Expression.binary operator left right).truth ρ := by
  obtain ⟨ps, precision, hps, hfilters⟩ :=
    (h.withRelation relation).comparisonsIn_interval hi hpattern
  rw [Condition.verdict, Condition.valueFilter, hps]
  simp [hfilters]

section

variable (h : Compared s c i stored (.interval value following)) (hi : scope.position = some i)
  (hx : ρ.term stored = some x) (hv : ρ.term value = some v) (hf : ρ.term following = some f)

include h hi hx hv

theorem verdict_lessThan_interval :
    c.verdict s scope ρ .lessThan = some (decide (v < x)) := by
  rw [h.verdict_interval hi rfl]
  exact Expression.truth_binary .less rfl hv hx

include hf

theorem verdict_matching_interval :
    c.verdict s scope ρ .matching = some (decide (v ≤ x ∧ x < f)) := by
  have hleft := Expression.truth_binary .lessOrEqual rfl hv hx
  have hright := Expression.truth_binary .less rfl hx hf
  rw [h.verdict_interval hi rfl, Expression.truth, hleft, hright, conjunction_some]
  simp

theorem verdict_notMatching_interval :
    c.verdict s scope ρ .notMatching = some (decide (v < x ∨ f ≤ x)) := by
  have hleft := Expression.truth_binary .less rfl hv hx
  have hright := Expression.truth_binary .greaterOrEqual rfl hx hf
  rw [h.verdict_interval hi rfl, Expression.truth, hleft, hright, disjunction_some]
  simp

omit hv

theorem verdict_moreThan_interval :
    c.verdict s scope ρ .moreThan = some (decide (f ≤ x)) := by
  rw [h.verdict_interval hi rfl]
  exact Expression.truth_binary .greaterOrEqual rfl hx hf

end

end Compared

/-! ## What the filters let through -/

/-- Exactly one of three statements. -/
def ExactlyOne (p q r : Prop) : Prop :=
  p ∧ ¬ q ∧ ¬ r ∨ ¬ p ∧ q ∧ ¬ r ∨ ¬ p ∧ ¬ q ∧ r

/-- The verdicts on a stored value `x` that is compared with one value `v`. -/
structure PointVerdicts (verdict : Relation → Option Bool) (x v : α) : Prop where
  lessThan : verdict .lessThan = some (decide (x < v))
  moreThan : verdict .moreThan = some (decide (v < x))
  apart : ¬ (verdict .lessThan = some true ∧ verdict .moreThan = some true)

/-- The verdicts on a stored instant `x` that is compared with the instants from `v` on, up to `f`.
What should be earlier than `v` is in fact later. -/
structure IntervalVerdicts (verdict : Relation → Option Bool) (x v f : α) : Prop where
  lessThan : verdict .lessThan = some (decide (v < x))
  moreThan : verdict .moreThan = some (decide (f ≤ x))
  matching : verdict .matching = some (decide (v ≤ x ∧ x < f))
  /-- The filter for earlier instants means what it says at the start of the interval only. -/
  earlier : (verdict .lessThan = some true ↔ x < v) ↔ x = v
  /-- It lets through what is after the interval as well. -/
  apart : ¬ (verdict .lessThan = some true ∧ verdict .moreThan = some true) ↔ x < f
  /-- Before, within or after: at the start of the interval only, one filter decides. -/
  one : ExactlyOne (verdict .lessThan = some true) (verdict .matching = some true)
    (verdict .moreThan = some true) ↔ x = v

/-- The verdicts on a stored value `x`, whenever the bounds have values in their order. -/
def Bounds.Verdicts (ρ : Reading α) (verdict : Relation → Option Bool) (x : α) : Bounds → Prop
  | .point value => ∀ v, ρ.term value = some v → PointVerdicts verdict x v
  | .interval value following => ∀ v f, ρ.term (.literal value) = some v →
      ρ.term (.literal following) = some f → v < f → IntervalVerdicts verdict x v f

theorem lt_iff_gt_iff_eq : (v < x ↔ x < v) ↔ x = v := by
  constructor
  · intro h
    rcases lt_trichotomy x v with hlt | heq | hgt
    · exact absurd (h.2 hlt) hlt.asymm
    · exact heq
    · exact absurd (h.1 hgt) hgt.asymm
  · rintro rfl
    exact Iff.rfl

/-- With `v < x` for what is not within the interval, only its start and what comes after it are
taken right. -/
theorem lt_iff_not_within_iff (hvf : v < f) :
    (v < x ↔ ¬ (v ≤ x ∧ x < f)) ↔ x = v ∨ f ≤ x := by
  constructor
  · intro h
    by_cases hin : v ≤ x ∧ x < f
    · have hle : x ≤ v := not_lt.1 fun hlt => h.1 hlt hin
      exact .inl (le_antisymm hle hin.1)
    · have hlt : v < x := h.2 hin
      exact .inr (not_lt.1 fun hbefore => hin ⟨hlt.le, hbefore⟩)
  · rintro (rfl | hle)
    · exact ⟨fun hlt => absurd hlt (lt_irrefl x), fun hout => absurd ⟨le_refl x, hvf⟩ hout⟩
    · exact ⟨fun _ hin => absurd hin.2 (not_lt.2 hle), fun _ => hvf.trans_le hle⟩

/-- With the comparison for earlier instants the wrong way round, only the start of the interval is
in exactly one of the three ranges. -/
theorem exactlyOne_reversed_iff (hvf : v < f) :
    ExactlyOne (v < x) (v ≤ x ∧ x < f) (f ≤ x) ↔ x = v := by
  constructor
  · rintro (⟨hlt, hout, hbefore⟩ | ⟨hle, hin, -⟩ | ⟨hle, -, hafter⟩)
    · exact absurd ⟨hlt.le, lt_of_not_ge hbefore⟩ hout
    · exact le_antisymm (not_lt.1 hle) hin.1
    · exact absurd (hvf.trans_le hafter) hle
  · rintro rfl
    exact .inr (.inl ⟨lt_irrefl x, ⟨le_refl x, hvf⟩, not_le.2 hvf⟩)

theorem Compared.pointVerdicts {stored : Variable} {value : Term}
    (h : Compared s c i stored (.point value)) (hi : scope.position = some i)
    (hx : ρ.term stored = some x) (hv : ρ.term value = some v) :
    PointVerdicts (c.verdict s scope ρ) x v := by
  have hearlier : Relation.lessThan ≠ .matching := by decide
  have hlater : Relation.moreThan ≠ .matching := by decide
  have hless : c.verdict s scope ρ .lessThan = some (decide (x < v)) :=
    h.verdict_point hi hx hv hearlier rfl rfl
  have hmore : c.verdict s scope ρ .moreThan = some (decide (v < x)) :=
    h.verdict_point hi hx hv hlater rfl rfl
  refine ⟨hless, hmore, ?_⟩
  rw [hless, hmore]
  simp only [Option.some.injEq, decide_eq_true_eq]
  rintro ⟨hlt, hgt⟩
  exact hlt.asymm hgt

theorem Compared.intervalVerdicts {stored : Variable} {value following : Literal}
    (h : Compared s c i stored (.interval value following)) (hi : scope.position = some i)
    (hx : ρ.term stored = some x) (hv : ρ.term value = some v) (hf : ρ.term following = some f)
    (hvf : v < f) : IntervalVerdicts (c.verdict s scope ρ) x v f := by
  have hless := h.verdict_lessThan_interval hi hx hv
  have hmore := h.verdict_moreThan_interval hi hx hf
  have hmatch := h.verdict_matching_interval hi hx hv hf
  refine ⟨hless, hmore, hmatch, ?_, ?_, ?_⟩ <;>
    simp only [hless, hmore, hmatch, Option.some.injEq, decide_eq_true_eq]
  · exact lt_iff_gt_iff_eq
  · constructor
    · intro hapart
      by_contra hafter
      exact hapart ⟨hvf.trans_le (not_lt.1 hafter), not_lt.1 hafter⟩
    · rintro hbefore ⟨-, hafter⟩
      exact absurd hbefore (not_lt.2 hafter)
  · exact exactlyOne_reversed_iff hvf

end

/-- **What range filters let through.**  A condition on smaller or larger values that is built
compares a stored value with a value or an interval, whatever else it asks for.  Amounts and
instants given to the day are compared as the relation says.  For a month or a year, later instants
are the ones from its end on, but the filter for earlier instants lets through the ones after its
start. -/
theorem range_filters_iff (hd : c.datatype = .quantity ∨ c.datatype = .time)
    (hr : c.relation = .lessThan ∨ c.relation = .moreThan) (h : c.patterns s scope = .ok ps) :
    c.valueFilter s scope c.relation = (comparisonsIn ps).getLast? ∧
      ∃ i stored bounds, scope.position = some i ∧ Compared s c i stored bounds ∧
        ∀ {α : Type u} [LinearOrder α] (ρ : Reading α) (x : α), ρ.term stored = some x →
          bounds.Verdicts ρ (c.verdict s scope ρ) x := by
  have hany : c.relation ≠ .regardless := by
    rcases hr with hr | hr <;> rw [hr] <;> decide
  obtain ⟨i, stored, bounds, hi, hcompared⟩ := compared_of_patterns hd hany h
  refine ⟨?_, i, stored, bounds, hi, hcompared, ?_⟩
  · rw [Condition.valueFilter]
    simp only [h]
  · intro α _ ρ x hx
    cases bounds with
    | point value => exact fun v hv => hcompared.pointVerdicts hi hx hv
    | interval value following =>
      exact fun v f hv hf hvf => hcompared.intervalVerdicts hi hx hv hf hvf

/-- A condition on instants and the year 1789. -/
def year1789 (relation : Relation) : Condition :=
  ⟨"P585", .time, .time "+1789-00-00T00:00:00Z" 9, relation, .regardless, false, false, none⟩

/-- Days since the year 1789 began.  The stored instant is the given one. -/
def daysSince1789 (stored : Nat) : Reading Nat where
  term t := [(Term.var (.underscored "P585" 0), stored),
    (.literal (.dateTime "+1789-00-00T00:00:00Z"), 0),
    (.literal (.dateTime "+1790-00-00T00:00:00Z"), 365)].lookup t
  times a b := some (a * b)

/-- An instant within 1789 is let through as earlier than 1789. -/
theorem range_filters_year1789 :
    ∃ ps, (year1789 .lessThan).patterns {} ⟨some 0, ""⟩ = .ok ps ∧
      (year1789 .lessThan).valueFilter {} ⟨some 0, ""⟩ .lessThan = (comparisonsIn ps).getLast? ∧
      IntervalVerdicts ((year1789 .lessThan).verdict {} ⟨some 0, ""⟩ (daysSince1789 200)) 200 0
        365 := by
  have hps : (year1789 .lessThan).patterns {} ⟨some 0, ""⟩ = .ok _ := rfl
  obtain ⟨hfilter, i, stored, bounds, hi, hcompared, hverdicts⟩ :=
    range_filters_iff (.inr rfl) (.inl rfl) hps
  obtain rfl : 0 = i := Option.some.inj hi
  refine ⟨_, hps, hfilter, ?_⟩
  cases hcompared with
  | amount hd => exact absurd hd (by decide)
  | converted hd => exact absurd hd (by decide)
  | day _ hv => exact absurd hv (by simp [year1789])
  | interval _ hv hf =>
    cases hv
    cases hf with
    | year hf =>
      cases hf
      exact hverdicts (daysSince1789 200) 200 rfl 0 365 rfl rfl (by decide)

/-- **When what does not match is what is left.**  For a month or a year, the filter for other
instants is the opposite of the filter for instants within it on the very first instant and from the
end on.  On instants before it neither is true, and on the remaining ones within it both are. -/
theorem notMatching_complements_iff {α : Type u} [LinearOrder α] {ρ : Reading α} {x v f : α}
    {value following : String} {number : UInt8} (hd : c.datatype = .time)
    (hvalue : c.value = .time value number) (hfollowing : FollowedBy number value following)
    (hi : scope.position = some i) (hx : ρ.term (Variable.underscored c.property i) = some x)
    (hv : ρ.term (Literal.dateTime value) = some v)
    (hf : ρ.term (Literal.dateTime following) = some f) (hvf : v < f) :
    c.verdict s scope ρ .matching = some (decide (v ≤ x ∧ x < f)) ∧
      c.verdict s scope ρ .notMatching = some (decide (v < x)) ∧
      ((c.verdict s scope ρ .notMatching = some true ↔
        c.verdict s scope ρ .matching = some false) ↔ x = v ∨ f ≤ x) := by
  have hcompared : Compared s c i _ (.interval _ _) := .interval hd hvalue hfollowing
  have hmatching := hcompared.verdict_matching_interval hi hx hv hf
  have hafter : v < x ∨ f ≤ x ↔ v < x := by
    refine ⟨fun h => ?_, .inl⟩
    rcases h with h | h
    · exact h
    · exact hvf.trans_le h
  have hother : c.verdict s scope ρ .notMatching = some (decide (v < x)) := by
    rw [hcompared.verdict_notMatching_interval hi hx hv hf]
    simp only [hafter]
  refine ⟨hmatching, hother, ?_⟩
  simp only [hmatching, hother, Option.some.injEq, decide_eq_true_eq, decide_eq_false_iff_not]
  exact lt_iff_not_within_iff hvf

/-- An instant within 1789 is let through by both filters. -/
theorem notMatching_complements_year1789 :
    (year1789 .notMatching).verdict {} ⟨some 0, ""⟩ (daysSince1789 200) .matching =
        some (decide (0 ≤ 200 ∧ 200 < 365)) ∧
      (year1789 .notMatching).verdict {} ⟨some 0, ""⟩ (daysSince1789 200) .notMatching =
        some (decide (0 < 200)) ∧
      (((year1789 .notMatching).verdict {} ⟨some 0, ""⟩ (daysSince1789 200) .notMatching =
          some true ↔
        (year1789 .notMatching).verdict {} ⟨some 0, ""⟩ (daysSince1789 200) .matching =
          some false) ↔ 200 = 0 ∨ 365 ≤ 200) :=
  notMatching_complements_iff (c := year1789 .notMatching) rfl rfl (.year rfl) rfl rfl rfl rfl
    (by decide)

end WikibaseQuery

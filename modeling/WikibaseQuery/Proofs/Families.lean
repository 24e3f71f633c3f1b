import WikibaseQuery.Compile.Select

/-!
# What the families build

One inversion lemma for each family: what a condition must be for its patterns to be built, and
which patterns these are then.  Everything that is proved of all conditions goes through
`Condition.patterns_cases`, which leaves three kinds of them:

* conditions on a statement by a term (`statementPatterns_eq_ok`), to which texts, entities and
  mere existence come down (`StatementKind`);
* conditions on quantities (`QuantityCore`);
* conditions on points in time (`TimeCore`).

The cores are the patterns before references and negation.
-/

namespace WikibaseQuery

/-! ## Steps that can fail -/

/-- Two steps succeed exactly when the first does, and the second does with its result. -/
theorem andThen_eq_ok {ε α β : Type} (first : Except ε α) (next : α → Except ε β) (result : β) :
    first >>= next = .ok result ↔ ∃ a, first = .ok a ∧ next a = .ok result := by
  constructor
  · intro h
    cases first with
    | error e => exact absurd h (by simp [bind, Except.bind])
    | ok a => exact ⟨a, rfl, h⟩
  · rintro ⟨a, rfl, h⟩
    exact h

theorem Scope.index_eq_ok {scope : Scope} {i : Nat} :
    scope.index = .ok i ↔ scope.position = some i := by
  unfold Scope.index
  cases scope.position <;> simp

variable {s : Settings} {n : Namespaces} {c : Condition} {scope : Scope} {ps : List Pattern}

/-! ## Statements by a term -/

/-- The triples of a statement by a term. -/
def statementLink (n : Namespaces) (property : String) (i : Nat) (path : Path) (object : Term) :
    Pattern :=
  .triples [claimTriple n property (.numbered "statement" i), ⟨Variable.numbered "statement" i,
    path, object⟩]

theorem statementPatterns_eq_ok {value : Term} {tail : List Path} :
    statementPatterns n c scope value tail = .ok ps ↔
      ∃ i object path, scope.position = some i ∧
        statementObject n c scope.suffix i value tail = .ok (object, path) ∧
        ps = negateIf c.negate (withReferences n c.references (.numbered "statement" i)
          [statementLink n c.property i path object]) ++ excludeValue n c value tail := by
  unfold statementPatterns
  simp only [andThen_eq_ok, Scope.index_eq_ok]
  constructor
  · rintro ⟨i, hi, ⟨object, path⟩, hobject, hps⟩
    exact ⟨i, object, path, hi, hobject, (Except.ok.inj hps).symm⟩
  · rintro ⟨i, object, path, hi, hobject, rfl⟩
    exact ⟨i, hi, (object, path), hobject, rfl⟩

/-- Unless any value will do, the object is the value itself or a variable. -/
theorem statementObject_cases {suffix : String} {i : Nat} {value object : Term} {tail : List Path}
    {path : Path} (h : statementObject n c suffix i value tail = .ok (object, path))
    (hr : c.relation ≠ .regardless) : object = value ∨ object = Variable.numbered "instance" i := by
  unfold statementObject at h
  cases hrelation : c.relation <;> rw [hrelation] at h <;> cases h
  case matching => exact .inl rfl
  case notMatching => exact .inr rfl
  case regardless => exact absurd hrelation hr

/-- Whether the patterns of the condition have a blank node: those on a statement by any value. -/
def Condition.hasBlankNode (c : Condition) : Bool :=
  c.usesAnyValue && c.datatype ≠ .quantity && c.datatype ≠ .time

/-- Whether a term is one that a condition names: an IRI or a literal. -/
def Term.isConstant : Term → Bool
  | .iri _ | .literal _ => true
  | .var _ | .blank _ => false

/-- What a condition on a statement by a term comes down to: the relation, the term, and what
prolongs the path to it. -/
inductive StatementKind (s : Settings) (c : Condition) (suffix : String) :
    Relation → Term → List Path → Prop
  /-- A text, as a literal or as the IRI that it spells. -/
  | text {text : String} : Family.ofDatatype c.datatype = .text → c.value = .text text →
      StatementKind s c suffix c.relation
        (if c.datatype = .url then .iri ⟨text⟩ else .literal (.plain text)) []
  /-- An entity, perhaps by way of its superclasses. -/
  | entity {id : String} {tail : List Path} : Family.ofDatatype c.datatype = .entity →
      c.value = .entity id → subclassTail s c = .ok tail →
      StatementKind s c suffix c.relation (s.namespaces.entity id) tail
  /-- No entity is named, and none is needed. -/
  | anyEntity : Family.ofDatatype c.datatype = .entity → c.relation = .regardless →
      StatementKind s c suffix .regardless (s.namespaces.entity "") []
  /-- The relation is overruled, since any value will do. -/
  | existence : Family.ofDatatype c.datatype = .existence →
      c.relation ≠ .lessThan → c.relation ≠ .moreThan →
      StatementKind s c suffix .regardless (anyValueNode c.property suffix) []

namespace StatementKind

variable {suffix : String} {relation : Relation} {value : Term} {tail : List Path}

/-- Any value will do exactly where there is a blank node for it. -/
theorem regardless_iff (kind : StatementKind s c suffix relation value tail) :
    relation = .regardless ↔ c.hasBlankNode = true := by
  unfold Condition.hasBlankNode Condition.usesAnyValue
  cases kind with
  | text hf _ => cases hd : c.datatype <;> simp_all [Family.ofDatatype, Datatype.isSupported]
  | entity hf _ _ => cases hd : c.datatype <;> simp_all [Family.ofDatatype, Datatype.isSupported]
  | anyEntity hf hr => cases hd : c.datatype <;> simp_all [Family.ofDatatype]
  | existence hf _ _ => cases hd : c.datatype <;> simp_all [Family.ofDatatype, Datatype.isSupported]

/-- Where not any value will do, the condition names one. -/
theorem isConstant (kind : StatementKind s c suffix relation value tail)
    (hr : relation ≠ .regardless) : value.isConstant = true := by
  cases kind with
  | text _ _ => split <;> rfl
  | entity _ _ _ => rfl
  | anyEntity _ _ => exact absurd rfl hr
  | existence _ _ _ => exact absurd rfl hr

/-- Points in time are of another kind. -/
theorem ne_time (kind : StatementKind s c suffix relation value tail) : c.datatype ≠ .time := by
  intro hd
  cases kind with
  | text hf _ => exact absurd hf (by simp [hd, Family.ofDatatype])
  | entity hf _ _ => exact absurd hf (by simp [hd, Family.ofDatatype])
  | anyEntity hf _ => exact absurd hf (by simp [hd, Family.ofDatatype])
  | existence hf _ _ => exact absurd hf (by simp [hd, Family.ofDatatype])

end StatementKind

theorem textPatterns_cases (hf : Family.ofDatatype c.datatype = .text)
    (h : textPatterns s c scope = .ok ps) :
    ∃ relation value tail, StatementKind s c scope.suffix relation value tail ∧
      statementPatterns s.namespaces { c with relation } scope value tail = .ok ps := by
  unfold textPatterns at h
  split at h
  · rename_i hv
    exact ⟨_, _, _, .text hf hv, h⟩
  · exact absurd h (by simp)

theorem entityPatterns_cases (hf : Family.ofDatatype c.datatype = .entity)
    (h : entityPatterns s c scope = .ok ps) :
    ∃ relation value tail, StatementKind s c scope.suffix relation value tail ∧
      statementPatterns s.namespaces { c with relation } scope value tail = .ok ps := by
  unfold entityPatterns at h
  split at h
  · rename_i hv
    obtain ⟨tail, htail, hps⟩ := (andThen_eq_ok _ _ _).1 h
    exact ⟨_, _, tail, .entity hf hv htail, hps⟩
  · rename_i hr _
    refine ⟨_, _, _, .anyEntity hf hr, ?_⟩
    rw [← hr]
    exact h
  · exact absurd h (by simp)

theorem existencePatterns_cases (hf : Family.ofDatatype c.datatype = .existence)
    (h : existencePatterns s c scope = .ok ps) :
    ∃ relation value tail, StatementKind s c scope.suffix relation value tail ∧
      statementPatterns s.namespaces { c with relation } scope value tail = .ok ps := by
  unfold existencePatterns at h
  cases hr : c.relation <;> rw [hr] at h
  case lessThan | moreThan => exact absurd h (by simp)
  all_goals exact ⟨_, _, _, .existence hf (by simp [hr]) (by simp [hr]), h⟩

/-! ## Quantities -/

/-- The patterns of a condition on a quantity, before negation. -/
inductive QuantityCore (s : Settings) (c : Condition) (i : Nat) : List Pattern → Prop
  /-- Any amount will do. -/
  | anyAmount : c.relation = .regardless →
      QuantityCore s c i (plainAmountPatterns s.namespaces c none i)
  /-- The amount has no unit. -/
  | plain {amount : Binary64} : c.relation ≠ .regardless → c.value = .quantity amount none →
      QuantityCore s c i (plainAmountPatterns s.namespaces c (some amount) i)
  /-- The amount has a unit, and the settings say how to convert it. -/
  | converted {amount : Binary64} {unit conversion : String} : c.relation ≠ .regardless →
      c.value = .quantity amount (some unit) → s.unitConversion = .ok conversion →
      QuantityCore s c i (convertedAmountPatterns s.namespaces conversion c amount unit i)

/-- An amount without a unit that is compared. -/
theorem positiveQuantityPatterns_plain {amount : Binary64} {i : Nat}
    (hr : c.relation ≠ .regardless) (hv : c.value = .quantity amount none)
    (hi : scope.position = some i) :
    positiveQuantityPatterns s c scope =
      .ok (plainAmountPatterns s.namespaces c (some amount) i) := by
  unfold positiveQuantityPatterns
  rw [Scope.index_eq_ok.2 hi, hv]
  cases hrelation : c.relation with
  | regardless => exact absurd hrelation hr
  | _ => rfl

/-- An amount with a unit that is compared: the settings have to say how to convert it. -/
theorem positiveQuantityPatterns_converted {amount : Binary64} {unit : String} {i : Nat}
    (hr : c.relation ≠ .regardless) (hv : c.value = .quantity amount (some unit))
    (hi : scope.position = some i) :
    positiveQuantityPatterns s c scope =
      match s.unitConversion with
      | .error setting => .error (.missingSetting setting)
      | .ok conversion =>
        .ok (convertedAmountPatterns s.namespaces conversion c amount unit i) := by
  unfold positiveQuantityPatterns
  rw [Scope.index_eq_ok.2 hi, hv]
  cases hrelation : c.relation with
  | regardless => exact absurd hrelation hr
  | _ => rfl

theorem positiveQuantityPatterns_eq_ok {core : List Pattern} :
    positiveQuantityPatterns s c scope = .ok core ↔
      ∃ i, scope.position = some i ∧ QuantityCore s c i core := by
  constructor
  · intro h
    unfold positiveQuantityPatterns at h
    split at h
    · rename_i hr
      obtain ⟨i, hi, hcore⟩ := (andThen_eq_ok _ _ _).1 h
      cases hcore
      exact ⟨i, Scope.index_eq_ok.1 hi, .anyAmount hr⟩
    · rename_i hv hr
      obtain ⟨i, hi, hcore⟩ := (andThen_eq_ok _ _ _).1 h
      cases hcore
      exact ⟨i, Scope.index_eq_ok.1 hi, .plain hr hv⟩
    · rename_i hv hr
      split at h
      · exact absurd h (by simp)
      · rename_i hs
        obtain ⟨i, hi, hcore⟩ := (andThen_eq_ok _ _ _).1 h
        cases hcore
        exact ⟨i, Scope.index_eq_ok.1 hi, .converted hr hv hs⟩
    · exact absurd h (by simp)
  · rintro ⟨i, hi, hcore⟩
    have hindex : scope.index = .ok i := Scope.index_eq_ok.2 hi
    cases hcore with
    | anyAmount hr =>
      simp only [positiveQuantityPatterns, hr, hindex]
      rfl
    | plain hr hv => exact positiveQuantityPatterns_plain hr hv hi
    | converted hr hv hs => rw [positiveQuantityPatterns_converted hr hv hi, hs]

theorem quantityPatterns_eq_ok :
    quantityPatterns s c scope = .ok ps ↔
      ∃ i core, scope.position = some i ∧ QuantityCore s c i core ∧
        ps = negateIf c.negate core := by
  unfold quantityPatterns
  rw [andThen_eq_ok]
  constructor
  · rintro ⟨core, hcore, hps⟩
    obtain ⟨i, hi, hbuilt⟩ := positiveQuantityPatterns_eq_ok.1 hcore
    exact ⟨i, core, hi, hbuilt, (Except.ok.inj hps).symm⟩
  · rintro ⟨i, core, hi, hbuilt, rfl⟩
    exact ⟨core, positiveQuantityPatterns_eq_ok.2 ⟨i, hi, hbuilt⟩, rfl⟩

/-! ## Points in time -/

/-- A value to the month or the year, and the instant at which the next month or year starts. -/
inductive FollowedBy : (number : UInt8) → (value following : String) → Prop
  | month {value following : String} : followingMonth value = .ok following →
      FollowedBy 10 value following
  | year {value following : String} : followingYear value = .ok following →
      FollowedBy 9 value following

/-- No instant is looked up after a value to the day. -/
theorem FollowedBy.ne_eleven {number : UInt8} {value following : String}
    (h : FollowedBy number value following) : number ≠ 11 := by
  cases h <;> decide

/-- The patterns of a condition on a point in time, before references and negation. -/
inductive TimeCore (n : Namespaces) (c : Condition) (i : Nat) : List Pattern → Prop
  /-- Any instant will do. -/
  | anyInstant : c.relation = .regardless →
      TimeCore n c i (statementValuePatterns n c.property i ++ [instantPattern n c.property i])
  /-- The instant is given to the day. -/
  | day {value : String} {pattern : Pattern} : c.relation ≠ .regardless →
      c.value = .time value 11 →
      dayPattern c (.underscored c.property i) (.dateTime value) = .ok pattern →
      TimeCore n c i
        (statementValuePatterns n c.property i ++ [instantPattern n c.property i, pattern])
  /-- The instant is given to the month or the year. -/
  | interval {value following : String} {number : UInt8} {pattern : Pattern} :
      c.relation ≠ .regardless → c.value = .time value number →
      FollowedBy number value following →
      intervalPattern c (.underscored c.property i) (.dateTime value) (.dateTime following) =
        .ok pattern →
      TimeCore n c i
        (statementValuePatterns n c.property i ++ precisionPatterns n number i ++
          [instantPattern n c.property i, rangeHint n, pattern])

/-- The only numbers of a precision are those of the day, the month and the year. -/
theorem Precision.ofNumber_eq_ok {number : UInt8} {precision : Precision} :
    Precision.ofNumber number = .ok precision ↔
      precision = .day ∧ number = 11 ∨ precision = .month ∧ number = 10 ∨
        precision = .year ∧ number = 9 := by
  unfold Precision.ofNumber
  by_cases h11 : number = 11
  · subst h11
    cases precision <;> simp
  · by_cases h10 : number = 10
    · subst h10
      cases precision <;> simp
    · by_cases h9 : number = 9
      · subst h9
        cases precision <;> simp
      · cases precision <;> simp [h11, h10, h9]

/-- An instant to the day is bound or compared. -/
theorem dayPattern_cases {instant : Variable} {value : Literal} {pattern : Pattern}
    (h : dayPattern c instant value = .ok pattern) :
    pattern = .bind instant value ∨ ∃ operator, pattern = .comparison instant operator value := by
  unfold dayPattern at h
  split at h <;> cases h
  case h_1 => exact .inl rfl
  all_goals exact .inr ⟨_, rfl⟩

/-- An interval is compared by both ends or by one of them. -/
theorem intervalPattern_cases {instant : Variable} {value following : Literal} {pattern : Pattern}
    (h : intervalPattern c instant value following = .ok pattern) :
    (∃ before operator after, pattern = .comparison (.binary before value instant) operator
      (.binary after instant following)) ∨
    pattern = .comparison value .less instant ∨
    pattern = .comparison instant .greaterOrEqual following := by
  unfold intervalPattern at h
  split at h <;> cases h
  case h_1 | h_2 => exact .inl ⟨_, _, _, rfl⟩
  case h_3 => exact .inr (.inl rfl)
  case h_4 => exact .inr (.inr rfl)

theorem dayPatterns_eq_ok {value : String} {i : Nat} {core : List Pattern} :
    dayPatterns n c value i = .ok core ↔
      ∃ pattern, dayPattern c (.underscored c.property i) (.dateTime value) = .ok pattern ∧
        core = statementValuePatterns n c.property i ++
          [instantPattern n c.property i, pattern] := by
  unfold dayPatterns
  rw [andThen_eq_ok]
  simp only [pure, Except.pure, Except.ok.injEq, eq_comm]

theorem intervalPatterns_eq_ok {value following : String} {number : UInt8} {i : Nat}
    {core : List Pattern} :
    intervalPatterns n c value following number i = .ok core ↔
      ∃ pattern, intervalPattern c (.underscored c.property i) (.dateTime value)
          (.dateTime following) = .ok pattern ∧
        core = statementValuePatterns n c.property i ++ precisionPatterns n number i ++
          [instantPattern n c.property i, rangeHint n, pattern] := by
  unfold intervalPatterns
  rw [andThen_eq_ok]
  simp only [pure, Except.pure, Except.ok.injEq, eq_comm]

/-- An instant that is compared: by its precision, alone or with the one that follows. -/
theorem positiveTimePatterns_time {value : String} {number : UInt8} {i : Nat}
    (hr : c.relation ≠ .regardless) (hv : c.value = .time value number)
    (hi : scope.position = some i) :
    positiveTimePatterns n c scope = (Precision.ofNumber number >>= fun
      | .day => dayPatterns n c value i >>= fun ps => pure (i, ps)
      | .month => followingMonth value >>= fun following =>
          intervalPatterns n c value following number i >>= fun ps => pure (i, ps)
      | .year => followingYear value >>= fun following =>
          intervalPatterns n c value following number i >>= fun ps => pure (i, ps)) := by
  unfold positiveTimePatterns
  rw [Scope.index_eq_ok.2 hi, hv]
  cases hrelation : c.relation with
  | regardless => exact absurd hrelation hr
  | _ => rfl

theorem positiveTimePatterns_eq_ok {i : Nat} {core : List Pattern} :
    positiveTimePatterns n c scope = .ok (i, core) ↔
      scope.position = some i ∧ TimeCore n c i core := by
  constructor
  · intro h
    unfold positiveTimePatterns at h
    split at h
    · rename_i hr
      obtain ⟨j, hj, hcore⟩ := (andThen_eq_ok _ _ _).1 h
      cases hcore
      exact ⟨Scope.index_eq_ok.1 hj, .anyInstant hr⟩
    · rename_i value number hv hr
      obtain ⟨precision, hprecision, h⟩ := (andThen_eq_ok _ _ _).1 h
      rcases Precision.ofNumber_eq_ok.1 hprecision with ⟨rfl, rfl⟩ | ⟨rfl, rfl⟩ | ⟨rfl, rfl⟩
      · obtain ⟨j, hj, h⟩ := (andThen_eq_ok _ _ _).1 h
        obtain ⟨built, hbuilt, hcore⟩ := (andThen_eq_ok _ _ _).1 h
        obtain ⟨pattern, hpattern, rfl⟩ := dayPatterns_eq_ok.1 hbuilt
        cases hcore
        exact ⟨Scope.index_eq_ok.1 hj, .day hr hv hpattern⟩
      all_goals
        obtain ⟨following, hfollowing, h⟩ := (andThen_eq_ok _ _ _).1 h
        obtain ⟨j, hj, h⟩ := (andThen_eq_ok _ _ _).1 h
        obtain ⟨built, hbuilt, hcore⟩ := (andThen_eq_ok _ _ _).1 h
        obtain ⟨pattern, hpattern, rfl⟩ := intervalPatterns_eq_ok.1 hbuilt
        cases hcore
      · exact ⟨Scope.index_eq_ok.1 hj, .interval hr hv (.month hfollowing) hpattern⟩
      · exact ⟨Scope.index_eq_ok.1 hj, .interval hr hv (.year hfollowing) hpattern⟩
    · exact absurd h (by simp)
  · rintro ⟨hi, hcore⟩
    have hindex : scope.index = .ok i := Scope.index_eq_ok.2 hi
    cases hcore with
    | anyInstant hr =>
      simp only [positiveTimePatterns, hr, hindex]
      rfl
    | @day value _ hr hv hpattern =>
      have hbuilt : dayPatterns n c value i = .ok _ := dayPatterns_eq_ok.2 ⟨_, hpattern, rfl⟩
      have hprecision : Precision.ofNumber 11 = .ok .day :=
        Precision.ofNumber_eq_ok.2 (.inl ⟨rfl, rfl⟩)
      rw [positiveTimePatterns_time hr hv hi]
      exact (andThen_eq_ok _ _ _).2 ⟨.day, hprecision, (andThen_eq_ok _ _ _).2 ⟨_, hbuilt, rfl⟩⟩
    | @interval value following number _ hr hv hfollowing hpattern =>
      have hbuilt : intervalPatterns n c value following number i = .ok _ :=
        intervalPatterns_eq_ok.2 ⟨_, hpattern, rfl⟩
      have hpair := (andThen_eq_ok _ (fun ps => pure (i, ps)) _).2 ⟨_, hbuilt, rfl⟩
      rw [positiveTimePatterns_time hr hv hi]
      cases hfollowing with
      | month hmonth =>
        have hprecision : Precision.ofNumber 10 = .ok .month :=
          Precision.ofNumber_eq_ok.2 (.inr (.inl ⟨rfl, rfl⟩))
        exact (andThen_eq_ok _ _ _).2 ⟨_, hprecision, (andThen_eq_ok _ _ _).2 ⟨_, hmonth, hpair⟩⟩
      | year hyear =>
        have hprecision : Precision.ofNumber 9 = .ok .year :=
          Precision.ofNumber_eq_ok.2 (.inr (.inr ⟨rfl, rfl⟩))
        exact (andThen_eq_ok _ _ _).2 ⟨_, hprecision, (andThen_eq_ok _ _ _).2 ⟨_, hyear, hpair⟩⟩

theorem timePatterns_eq_ok :
    timePatterns s c scope = .ok ps ↔
      ∃ i core, scope.position = some i ∧ TimeCore s.namespaces c i core ∧
        ps = negateIf c.negate
          (withReferences s.namespaces c.references (.underscored "statement" i) core) := by
  unfold timePatterns
  rw [andThen_eq_ok]
  constructor
  · rintro ⟨⟨i, core⟩, hcore, hps⟩
    obtain ⟨hi, hbuilt⟩ := positiveTimePatterns_eq_ok.1 hcore
    exact ⟨i, core, hi, hbuilt, (Except.ok.inj hps).symm⟩
  · rintro ⟨i, core, hi, hbuilt, rfl⟩
    exact ⟨(i, core), positiveTimePatterns_eq_ok.2 ⟨hi, hbuilt⟩, rfl⟩

/-! ## All conditions -/

/-- A family takes the conditions on its own datatypes. -/
theorem Condition.patterns_eq :
    c.patterns s scope =
      match Family.ofDatatype c.datatype with
      | .text => textPatterns s c scope
      | .entity => entityPatterns s c scope
      | .quantity => quantityPatterns s c scope
      | .time => timePatterns s c scope
      | .existence => existencePatterns s c scope := by
  have haccepts : (Family.ofDatatype c.datatype).accepts c.datatype = true := by
    simp [Family.accepts]
  unfold Condition.patterns Family.patterns
  exact if_pos haccepts

theorem Family.ofDatatype_eq_quantity {d : Datatype} (h : ofDatatype d = .quantity) :
    d = .quantity := by
  cases d with
  | quantity => rfl
  | _ => exact absurd h (by simp [ofDatatype])

theorem Family.ofDatatype_eq_time {d : Datatype} (h : ofDatatype d = .time) : d = .time := by
  cases d with
  | time => rfl
  | _ => exact absurd h (by simp [ofDatatype])

/-- **The three kinds of conditions.** -/
theorem Condition.patterns_cases (h : c.patterns s scope = .ok ps) :
    (∃ relation value tail, StatementKind s c scope.suffix relation value tail ∧
      statementPatterns s.namespaces { c with relation } scope value tail = .ok ps) ∨
    (c.datatype = .quantity ∧ quantityPatterns s c scope = .ok ps) ∨
    (c.datatype = .time ∧ timePatterns s c scope = .ok ps) := by
  rw [Condition.patterns_eq] at h
  cases hf : Family.ofDatatype c.datatype <;> rw [hf] at h
  case text => exact .inl (textPatterns_cases hf h)
  case entity => exact .inl (entityPatterns_cases hf h)
  case quantity => exact .inr (.inl ⟨Family.ofDatatype_eq_quantity hf, h⟩)
  case time => exact .inr (.inr ⟨Family.ofDatatype_eq_time hf, h⟩)
  case existence => exact .inl (existencePatterns_cases hf h)

end WikibaseQuery

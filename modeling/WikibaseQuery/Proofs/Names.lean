import WikibaseQuery.Proofs.BlankNodes
import WikibaseQuery.Text.Ranges

/-!
# Property ids in names

Variables and blank nodes are printed by their names as they stand, so a character that no name can
have would end the name and begin something else.  Names are made of fixed words, of positions and
of property ids, and this file says which property ids keep them names.

* `Condition.fit_iff` — only points in time have a variable named after the property, and only
  conditions on any value have a blank node named after it;
* `anyValueNode_fits_iff` — what a property id must be for that label;
* `Query.namesFit_iff` — all names of a compiled query are names exactly if the property ids of
  these conditions are made of the characters of names.
-/

namespace WikibaseQuery

/-! ## Names in SPARQL -/

/-- The letters of names in SPARQL (`PN_CHARS_BASE`). -/
def isNameLetter (ch : Char) : Bool :=
  inRanges
    [ (0x41, 0x5A), (0x61, 0x7A), (0xC0, 0xD6), (0xD8, 0xF6), (0xF8, 0x2FF), (0x370, 0x37D),
      (0x37F, 0x1FFF), (0x200C, 0x200D), (0x2070, 0x218F), (0x2C00, 0x2FEF), (0x3001, 0xD7FF),
      (0xF900, 0xFDCF), (0xFDF0, 0xFFFD), (0x10000, 0xEFFFF) ] ch

/-- The characters of variable names (`VARNAME`): letters, digits, the underscore, the middle dot,
and characters that combine with others. -/
def isVariableChar (ch : Char) : Bool :=
  isNameLetter ch ||
    inRanges [(0x30, 0x39), (0x5F, 0x5F), (0xB7, 0xB7), (0x300, 0x36F), (0x203F, 0x2040)] ch

/-- The characters of blank-node labels (`BLANK_NODE_LABEL`). -/
def isLabelChar (ch : Char) : Bool := isVariableChar ch || ch = '-' || ch = '.'

/-- Whether a text is made of the characters of variable names. -/
def IsVariableText (text : String) : Prop := ∀ ch ∈ text.toList, isVariableChar ch = true

/-- Whether a text is made of the characters of blank-node labels. -/
def IsLabelText (text : String) : Prop := ∀ ch ∈ text.toList, isLabelChar ch = true

instance (text : String) : Decidable (IsVariableText text) :=
  decidable_of_iff (text.toList.all isVariableChar = true) List.all_eq_true

instance (text : String) : Decidable (IsLabelText text) :=
  decidable_of_iff (text.toList.all isLabelChar = true) List.all_eq_true

/-- Whether the name of a term, if it has one, is a name.  A label has dots only within. -/
def Term.Fits : Term → Prop
  | .var v => IsVariableText v.name
  | .blank label =>
    IsLabelText label ∧ label.toList.head? ≠ some '.' ∧ label.toList.getLast? ≠ some '.'
  | .iri _ | .literal _ => True

instance : DecidablePred Term.Fits
  | .var _ => inferInstanceAs (Decidable (IsVariableText _))
  | .blank _ => inferInstanceAs (Decidable (_ ∧ _))
  | .iri _ | .literal _ => inferInstanceAs (Decidable True)

/-! ## The terms of a query -/

/-- The terms of an expression, apart from those in patterns. -/
def Expression.terms : Expression → List Term
  | .term t => [t]
  | .binary _ left right => left.terms ++ right.terms
  | .existence _ _ => []

/-- The terms of a pattern, apart from those in patterns within it.  A predicate has no name. -/
def Pattern.terms : Pattern → List Term
  | .triples ts => ts.flatMap Triple.terms
  | .bind target value => .var target :: value.terms
  | .filter condition => condition.terms
  | .subquery _ projection _ _ => projection.map .var
  | .union _ | .minus _ | .group _ | .service _ _ _ => []

/-- All names in the patterns are names, wherever they stand. -/
def Fit (ps : List Pattern) : Prop := ∀ t ∈ collect Pattern.terms ps, t.Fits

/-- All names of a query are names. -/
def NamesFit (q : SelectQuery) : Prop := Fit [q.toPattern]

/-- What is said of names is said of the terms that are read off the patterns. -/
theorem fit_congr {ps qs : List Pattern}
    (h : collect Pattern.terms ps = collect Pattern.terms qs) : Fit ps ↔ Fit qs := by
  rw [Fit, Fit, h]

theorem seesThrough_terms : SeesThrough Pattern.terms := ⟨fun _ => rfl, fun _ => rfl⟩

section

variable (word : String) (i : Nat)

/-- Letters are told by their codes, as digits are. -/
theorem isAlpha_iff_toNat {ch : Char} : ch.isAlpha = true ↔
    0x41 ≤ ch.toNat ∧ ch.toNat ≤ 0x5A ∨ 0x61 ≤ ch.toNat ∧ ch.toNat ≤ 0x7A := by
  have hopen : ch.isAlpha = (decide (ch.val ≥ 'A'.val ∧ ch.val ≤ 'Z'.val) ||
      (ch.val ≥ 'a'.val && ch.val ≤ 'z'.val)) := rfl
  rw [hopen]
  simp [UInt32.le_iff_toNat_le]

theorem isDigit_eq_false_of_isAlpha {ch : Char} (h : ch.isAlpha = true) : ch.isDigit = false := by
  rw [isAlpha_iff_toNat] at h
  rw [Bool.eq_false_iff, Ne, Char.isDigit_iff_toNat]
  simp
  omega

theorem isVariableChar_of_isDigit {ch : Char} (h : ch.isDigit = true) :
    isVariableChar ch = true := by
  have hrange : 0x30 ≤ ch.toNat ∧ ch.toNat ≤ 0x39 := Char.isDigit_iff_toNat.1 h
  simp [isVariableChar, inRanges, hrange]

/-- A position is made of digits. -/
theorem isVariableText_position : IsVariableText (toString i) := by
  intro ch hch
  rw [Nat.toString_eq_repr, Nat.toList_repr] at hch
  exact isVariableChar_of_isDigit (Nat.isDigit_of_mem_toDigits (by decide) (by decide) hch)

@[simp] theorem fits_numbered : (Term.var (.numbered word i)).Fits ↔ IsVariableText word := by
  have hposition := isVariableText_position i
  simp only [Term.Fits, Variable.numbered, IsVariableText, String.toList_append,
    List.forall_mem_append] at hposition ⊢
  exact and_iff_left hposition

@[simp] theorem fits_underscored :
    (Term.var (.underscored word i)).Fits ↔ IsVariableText word := by
  have hposition := isVariableText_position i
  have hunderscore : IsVariableText "_" := by decide
  simp only [Term.Fits, Variable.underscored, IsVariableText, String.toList_append,
    List.forall_mem_append] at hposition hunderscore ⊢
  rw [and_iff_left hposition, and_iff_left hunderscore]

end

@[simp] theorem fits_iri (iri : Iri) : (Term.iri iri).Fits ↔ True := Iff.rfl

@[simp] theorem fits_literal (l : Literal) : (Term.literal l).Fits ↔ True := Iff.rfl

@[simp] theorem fits_item : (Term.var .item).Fits := by decide

@[simp] theorem fits_reference : (Term.var .reference).Fits := by decide

theorem fits_of_isConstant {t : Term} (h : t.isConstant = true) : t.Fits := by
  cases t with
  | iri i => trivial
  | literal l => trivial
  | var v => exact absurd h (by simp [Term.isConstant])
  | blank label => exact absurd h (by simp [Term.isConstant])

/-! ### Patterns one after another -/

section

variable (ps qs : List Pattern)

@[simp] theorem fit_nil : Fit [] := fun _ ht => absurd ht List.not_mem_nil

@[simp] theorem fit_append : Fit (ps ++ qs) ↔ Fit ps ∧ Fit qs := by
  simp only [Fit, collect_append, List.forall_mem_append]

@[simp] theorem fit_minus : Fit (.minus ps :: qs) ↔ Fit ps ∧ Fit qs := by
  simp only [Fit, collect_minus, Pattern.terms, List.nil_append, List.forall_mem_append]

@[simp] theorem fit_triples (ts : List Triple) :
    Fit (.triples ts :: qs) ↔ (∀ t ∈ ts, t.subject.Fits ∧ t.object.Fits) ∧ Fit qs := by
  simp only [Fit, collect_triples, Pattern.terms, Triple.terms, List.forall_mem_append,
    List.forall_mem_flatMap, List.forall_mem_cons, List.not_mem_nil, IsEmpty.forall_iff,
    implies_true, and_true]

@[simp] theorem fit_bind (target : Variable) (value : Expression) :
    Fit (.bind target value :: qs) ↔
      (Term.var target).Fits ∧ Fit [.filter value] ∧ Fit qs := by
  simp only [Fit, collect_bind, collect_filter, Pattern.terms, List.forall_mem_append,
    List.forall_mem_cons, collect_nil, List.append_nil, and_assoc]

@[simp] theorem fit_term (t : Term) : Fit (.filter (.term t) :: qs) ↔ t.Fits ∧ Fit qs := by
  simp only [Fit, collect_filter, Pattern.terms, Expression.terms, nested_term, List.flatMap_nil,
    List.nil_append, List.forall_mem_append, List.forall_mem_singleton]

@[simp] theorem fit_binary (left right : Expression) (operator : Operator) :
    Fit (.filter (.binary operator left right) :: qs) ↔
      Fit (.filter left :: .filter right :: qs) := by
  simp only [Fit, collect_filter, Pattern.terms, Expression.terms, nested_binary,
    List.flatMap_append, List.forall_mem_append]
  tauto

@[simp] theorem fit_existence (negated : Bool) :
    Fit (.filter (.existence negated ps) :: qs) ↔ Fit ps ∧ Fit qs := by
  simp only [Fit, collect_filter, Pattern.terms, Expression.terms, flatMap_nested_existence,
    List.nil_append, List.forall_mem_append]

end

/-! ## Conditions -/

theorem fit_referenceFilter (n : Namespaces) (references : References) {statement : Variable}
    (h : (Term.var statement).Fits) : Fit (referenceFilter n references statement) := by
  cases references <;> simp [referenceFilter, Pattern.triple, h]

theorem fit_excludeValue (n : Namespaces) (c : Condition) {value : Term} (h : value.Fits)
    (tail : List Path) : Fit (excludeValue n c value tail) := by
  unfold excludeValue
  split <;> simp [Pattern.triple, h]

theorem fit_amountFilter (relation : Relation) {amount : Variable} {other : Term}
    (hamount : (Term.var amount).Fits) (hother : other.Fits) :
    Fit (amountFilter relation amount other) := by
  cases relation <;>
    simp [amountFilter, Relation.comparison, Pattern.comparison, hamount, hother]

theorem QuantityCore.fit {s : Settings} {c : Condition} {i : Nat} {core : List Pattern}
    (h : QuantityCore s c i core) : Fit core := by
  have hnumbered : ∀ word, IsVariableText word → (Term.var (.numbered word i)).Fits :=
    fun word => (fits_numbered word i).2
  have hreferences := fit_referenceFilter s.namespaces c.references
    (hnumbered "statement" (by decide))
  cases h with
  | anyAmount _ =>
    simp +decide [plainAmountPatterns, claimTriple, hreferences]
  | @plain amount _ _ =>
    have hfilter := fit_amountFilter c.relation (hnumbered "numericQuantity" (by decide))
      ((fits_literal (.ofAmount amount)).2 trivial)
    simp +decide [plainAmountPatterns, claimTriple, hreferences, hfilter]
  | converted _ _ _ =>
    have hfilter := fit_amountFilter c.relation (hnumbered "statementQuantity" (by decide))
      (hnumbered "coherentUserQuantity" (by decide))
    simp +decide [convertedAmountPatterns, claimTriple, hreferences, hfilter]

/-- Instants are named after the property, and nothing else in a condition on them is. -/
theorem TimeCore.fit_iff {n : Namespaces} {c : Condition} {i : Nat} {core : List Pattern}
    (h : TimeCore n c i core) : Fit core ↔ IsVariableText c.property := by
  cases h with
  | anyInstant _ =>
    simp +decide [statementValuePatterns, instantPattern, claimTriple, Pattern.triple]
  | day _ _ hpattern =>
    rcases dayPattern_cases hpattern with rfl | ⟨operator, rfl⟩ <;>
      simp +decide [statementValuePatterns, instantPattern, claimTriple, Pattern.triple,
        Pattern.comparison]
  | interval _ _ _ hpattern =>
    rcases intervalPattern_cases hpattern with ⟨before, operator, after, rfl⟩ | rfl | rfl <;>
      simp +decide [statementValuePatterns, precisionPatterns, instantPattern, rangeHint,
        claimTriple, Pattern.triple, Pattern.comparison]

/-- **The names of a condition.**  Instants have a variable named after the property, and any value
has a blank node named after it; all other names are fixed. -/
theorem Condition.fit_iff {s : Settings} {c : Condition} {scope : Scope} {ps : List Pattern}
    (h : c.patterns s scope = .ok ps) :
    Fit ps ↔ (c.datatype = .time → IsVariableText c.property) ∧
      (c.hasBlankNode = true → (anyValueNode c.property scope.suffix).Fits) := by
  rcases Condition.patterns_cases h with
    ⟨relation, value, tail, kind, hps⟩ | ⟨hd, hps⟩ | ⟨hd, hps⟩
  · obtain ⟨i, object, path, -, hobject, hcollect⟩ := collect_statement seesThrough_terms hps
    have hstatement := (fits_numbered "statement" i).2 (by decide)
    have hreferences := fit_referenceFilter s.namespaces c.references hstatement
    have hfit : Fit ps ↔ object.Fits ∧
        Fit (excludeValue s.namespaces { c with relation } value tail) := by
      rw [fit_congr hcollect]
      simp [statementLink, claimTriple, hstatement, hreferences]
    rw [hfit, ← kind.regardless_iff]
    by_cases hr : relation = .regardless
    · subst hr
      cases hobject
      simp [kind.ne_time, excludeValue]
    · have hvalue := fits_of_isConstant (kind.isConstant hr)
      have hobject : object.Fits := by
        rcases statementObject_cases hobject hr with rfl | rfl
        · exact hvalue
        · exact (fits_numbered "instance" i).2 (by decide)
      simp [hr, kind.ne_time, hobject, fit_excludeValue, hvalue]
  · obtain ⟨i, core, -, hcore, hcollect⟩ := collect_quantity seesThrough_terms hps
    have hfit : Fit ps := (fit_congr hcollect).2 hcore.fit
    simp [hfit, hd, Condition.hasBlankNode]
  · obtain ⟨i, core, -, hcore, hcollect⟩ := collect_time seesThrough_terms hps
    have hreferences := fit_referenceFilter s.namespaces c.references
      ((fits_underscored "statement" i).2 (by decide))
    have hfit : Fit ps ↔ IsVariableText c.property := by
      rw [fit_congr hcollect, fit_append, hcore.fit_iff]
      exact and_iff_left hreferences
    simp [hfit, hd, Condition.hasBlankNode]

/-! ## Labels -/

theorem isVariableText_labelTail {suffix : String} (h : IsVariableText suffix) :
    ∀ ch ∈ labelTail suffix, isVariableChar ch = true := by
  unfold labelTail
  split
  · exact fun ch hch => absurd hch List.not_mem_nil
  · exact List.forall_mem_cons.2 ⟨by decide, h⟩

/-- A label ends in a dot exactly if its property does and no suffix follows. -/
theorem getLast?_anyValueLabel {property suffix : String} (h : IsVariableText suffix) :
    (anyValueLabel property suffix).toList.getLast? = some '.' ↔
      suffix = "" ∧ property.toList.getLast? = some '.' := by
  rw [toList_anyValueLabel, List.getLast?_append, List.getLast?_append]
  by_cases hs : suffix = ""
  · have htail : labelTail suffix = [] := if_pos hs
    rw [htail, List.getLast?_nil, Option.none_or, and_iff_right hs]
    cases property.toList.getLast? <;> simp
  · have htail : labelTail suffix ≠ [] := by simp [labelTail, hs]
    have hdot : (labelTail suffix).getLast htail ≠ '.' := by
      intro heq
      have hvariable := isVariableText_labelTail h _ (List.getLast_mem htail)
      rw [heq] at hvariable
      exact absurd hvariable (by decide)
    rw [List.getLast?_eq_some_getLast htail]
    simp [hs, hdot]

/-- A label is a name if its property is made for it, and does not end it in a dot. -/
theorem anyValueNode_fits_iff {property suffix : String} (hsuffix : IsVariableText suffix) :
    (anyValueNode property suffix).Fits ↔
      IsLabelText property ∧ (suffix = "" → property.toList.getLast? ≠ some '.') := by
  have htail : ∀ ch ∈ labelTail suffix, isLabelChar ch = true := by
    intro ch hch
    simp [isLabelChar, isVariableText_labelTail hsuffix ch hch]
  have hword : IsLabelText "anyValue" := by decide
  have htext : IsLabelText (anyValueLabel property suffix) ↔ IsLabelText property := by
    rw [IsLabelText, toList_anyValueLabel, List.forall_mem_append, List.forall_mem_append,
      and_iff_left htail]
    exact and_iff_right hword
  have hhead : (anyValueLabel property suffix).toList.head? ≠ some '.' := by
    rw [toList_anyValueLabel]
    simp
  have hlast : (anyValueLabel property suffix).toList.getLast? ≠ some '.' ↔
      (suffix = "" → property.toList.getLast? ≠ some '.') := by
    rw [ne_eq, getLast?_anyValueLabel hsuffix, not_and]
  exact and_congr htext ((and_iff_right hhead).trans hlast)

/-! ## Queries -/

/-- The property id of the condition keeps the names that it is let into: those of instants, and the
labels for any value, which end with it unless the property repeats. -/
def Condition.KeepsNames (conditions : List Condition) (c : Condition) : Prop :=
  (c.datatype = .time → IsVariableText c.property) ∧
    (c.hasBlankNode = true → IsLabelText c.property ∧
      (isRepeated conditions c.property = false → c.property.toList.getLast? ≠ some '.'))

instance (conditions : List Condition) (c : Condition) : Decidable (c.KeepsNames conditions) :=
  inferInstanceAs (Decidable (_ ∧ _))

namespace Query

variable {s : Settings} {q : Query} {built : Condition × Nat → List Pattern}

/-- The names of a condition at its position. -/
theorem fit_built (h : q.Builds s built) {m : Condition × Nat} (hm : m ∈ q.conditions.zipIdx) :
    Fit (built m) ↔ m.1.KeepsNames q.conditions := by
  have hsuffix : IsVariableText (m.1.scope q.conditions m.2).suffix := by
    unfold Condition.scope
    split
    · exact isVariableText_position m.2
    · exact fun ch hch => absurd hch (by simp)
  have hempty : (m.1.scope q.conditions m.2).suffix = "" ↔
      isRepeated q.conditions m.1.property = false := by
    unfold Condition.scope
    split <;> simp_all
  rw [Condition.fit_iff (h m hm), anyValueNode_fits_iff hsuffix, hempty]
  rfl

/-- The names of the conditions one after the other. -/
theorem fit_body_iff (h : q.Builds s built) :
    Fit (q.body built) ↔ ∀ c ∈ q.conditions, c.KeepsNames q.conditions := by
  have hmembers := List.forall_mem_map (f := Prod.fst) (l := q.conditions.zipIdx)
    (P := Condition.KeepsNames q.conditions)
  rw [List.zipIdx_map_fst] at hmembers
  unfold Fit
  rw [collect_body seesThrough_terms fun _ => rfl, List.forall_mem_flatMap, hmembers]
  exact forall₂_congr fun m hm => fit_built h hm

/-- **Which property ids keep names.**  All variables and blank nodes of a compiled query have names
exactly if the property id of a point in time is made of the characters of variable names, and that
of a condition on any value of the characters of labels, without a dot at the end of the label. -/
theorem namesFit_iff {answer : SelectQuery} (h : q.compile s = .ok answer) :
    NamesFit answer ↔ ∀ c ∈ q.conditions, c.KeepsNames q.conditions := by
  obtain ⟨built, items, hbuilt, hitems, hanswer, hcollect⟩ := collect_compile seesThrough_terms h
  have hprojection : ∀ t ∈ answer.toPattern.terms, t.Fits := by
    rw [SelectQuery.toPattern, Pattern.terms, hanswer]
    split <;> decide
  have hframe : ∀ t ∈ (if q.omitLabels then []
      else (Pattern.service (s.namespaces.ontology "label") false [labelLanguagePattern s]).terms ++
        ((labelLanguagePattern s).terms ++ items.toPattern.terms)), t.Fits := by
    split
    · simp
    · simp [SelectQuery.toPattern, Pattern.terms, labelLanguagePattern, Pattern.triple,
        Triple.terms, hitems]
  have hany : ∀ t ∈ (if (q.body built).all Pattern.isMinus then (anyItem s.namespaces).terms
      else []), t.Fits := by
    split
    · have hlabel : (Term.blank "anyValue").Fits := by decide
      simp [anyItem, Pattern.triple, Pattern.terms, Triple.terms, hlabel]
    · simp
  rw [NamesFit, Fit, collect_toPattern, collect_nil, List.append_nil, hcollect,
    List.forall_mem_append, List.forall_mem_append, List.forall_mem_append,
    and_iff_right hprojection, and_iff_right hframe, and_iff_right hany]
  exact fit_body_iff hbuilt

/-- Points in time under a property whose id is a piece of a query. -/
def strayProperty : Query where
  conditions :=
    [⟨"P585. ?item ?p ?o", .time, .text "", .regardless, .regardless, false, false, none⟩]
  limit := none
  omitLabels := true

/-- The variable named after it is no name. -/
theorem namesFit_strayProperty :
    ∃ answer, strayProperty.compile {} = .ok answer ∧
      (NamesFit answer ↔
        ∀ c ∈ strayProperty.conditions, c.KeepsNames strayProperty.conditions) ∧
      ¬ NamesFit answer := by
  obtain ⟨answer, hanswer⟩ : ∃ answer, strayProperty.compile {} = .ok answer := ⟨_, rfl⟩
  have hiff := namesFit_iff hanswer
  exact ⟨answer, hanswer, hiff, fun hfit => absurd (hiff.1 hfit) (by decide)⟩

end Query

end WikibaseQuery

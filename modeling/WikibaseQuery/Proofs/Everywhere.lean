import WikibaseQuery.Proofs.Nesting

/-!
# What holds everywhere in a query

Some properties of a query are those of its parts, each wherever it stands: of every name, of every
path, of the patterns of every pair of braces.  `Rules` gathers such properties, and a query obeys
them if all its parts do.

* `Pattern.Obeys`, `ObeyIn` — a pattern, or some patterns, obey rules;
* `Rules.Admits`, `Condition.obeys` — which rules the patterns of a condition obey;
* `Query.obeyIn_body_iff`, `Query.obeys_compile_iff` — a compiled query obeys rules if its conditions
  and the frame around them do.
-/

namespace WikibaseQuery

/-! ## Rules -/

/-- Properties of the parts of a query. -/
structure Rules where
  var : Variable → Prop := fun _ => True
  label : String → Prop := fun _ => True
  iri : Iri → Prop := fun _ => True
  /-- A term as an expression. -/
  operand : Term → Prop := fun _ => True
  path : PathOperator → List Path → Prop := fun _ _ => True
  /-- The triples of a basic graph pattern. -/
  block : List Triple → Prop := fun _ => True
  /-- The arms of a union. -/
  arms : List Pattern → Prop := fun _ => True
  /-- The patterns between braces. -/
  body : List Pattern → Prop := fun _ => True
  /-- The patterns between braces that belong to something else than a group. -/
  ungrouped : List Pattern → Prop := fun _ => True
  /-- The variables that a query shows. -/
  projection : List Variable → Prop := fun _ => True

variable (r : Rules)

def Term.Obeys : Term → Prop
  | .var v => r.var v
  | .iri i => r.iri i
  | .blank label => r.label label
  | .literal l => ∀ datatype ∈ l.datatype, r.iri datatype

mutual

def Path.Obeys : Path → Prop
  | .iri i => r.iri i
  | .compound operator items => r.path operator items ∧ PathsObey items

/-- All paths obey the rules. -/
def PathsObey : List Path → Prop
  | [] => True
  | path :: paths => path.Obeys ∧ PathsObey paths

end

def Triple.Obeys (t : Triple) : Prop :=
  t.subject.Obeys r ∧ t.predicate.Obeys r ∧ t.object.Obeys r

mutual

def Expression.Obeys : Expression → Prop
  | .term t => t.Obeys r ∧ r.operand t
  | .binary _ left right => left.Obeys ∧ right.Obeys
  | .existence _ patterns => r.body patterns ∧ r.ungrouped patterns ∧ ObeyIn patterns

def Pattern.Obeys : Pattern → Prop
  | .triples triples => r.block triples ∧ ∀ t ∈ triples, t.Obeys r
  | .bind target value => r.var target ∧ value.Obeys
  | .filter condition => condition.Obeys
  | .union arms => r.arms arms ∧ ObeyIn arms
  | .minus patterns => r.body patterns ∧ r.ungrouped patterns ∧ ObeyIn patterns
  | .group patterns => r.body patterns ∧ ObeyIn patterns
  | .service endpoint _ patterns =>
    r.iri endpoint ∧ r.body patterns ∧ r.ungrouped patterns ∧ ObeyIn patterns
  | .subquery _ projection patterns _ =>
    r.projection projection ∧ (∀ v ∈ projection, r.var v) ∧
      r.body patterns ∧ r.ungrouped patterns ∧ ObeyIn patterns

/-- All patterns obey the rules. -/
def ObeyIn : List Pattern → Prop
  | [] => True
  | p :: ps => p.Obeys ∧ ObeyIn ps

end

/-- The query obeys the rules. -/
def SelectQuery.Obeys (q : SelectQuery) : Prop := q.toPattern.Obeys r

section

variable {r}

theorem obeyIn_iff {ps : List Pattern} : ObeyIn r ps ↔ ∀ p ∈ ps, p.Obeys r := by
  induction ps with
  | nil => simp [ObeyIn]
  | cons p ps ih => rw [ObeyIn, ih, List.forall_mem_cons]

@[simp] theorem obeyIn_nil : ObeyIn r [] := trivial

@[simp] theorem obeyIn_cons {p : Pattern} {ps : List Pattern} :
    ObeyIn r (p :: ps) ↔ p.Obeys r ∧ ObeyIn r ps := Iff.rfl

@[simp] theorem obeyIn_append {ps qs : List Pattern} :
    ObeyIn r (ps ++ qs) ↔ ObeyIn r ps ∧ ObeyIn r qs := by
  rw [obeyIn_iff, obeyIn_iff, obeyIn_iff, List.forall_mem_append]

end

/-! ### Rules about patterns alone -/

/-- The rules say nothing of terms, paths and triples. -/
structure Rules.SparesTriples : Prop where
  var : ∀ v, r.var v
  label : ∀ label, r.label label
  iri : ∀ iri, r.iri iri
  operand : ∀ t, r.operand t
  path : ∀ operator items, r.path operator items
  block : ∀ triples, r.block triples

namespace Rules.SparesTriples

variable {r}

mutual

theorem predicate (hr : r.SparesTriples) : (path : Path) → path.Obeys r
  | .iri i => hr.iri i
  | .compound operator items => ⟨hr.path operator items, predicates hr items⟩

theorem predicates (hr : r.SparesTriples) : (paths : List Path) → PathsObey r paths
  | [] => trivial
  | path :: paths => ⟨predicate hr path, predicates hr paths⟩

end

theorem term (hr : r.SparesTriples) (t : Term) : t.Obeys r := by
  cases t with
  | var v => exact hr.var v
  | iri i => exact hr.iri i
  | blank label => exact hr.label label
  | literal l => exact fun datatype _ => hr.iri datatype

theorem expression (hr : r.SparesTriples) (t : Term) : (Expression.term t).Obeys r :=
  ⟨hr.term t, hr.operand t⟩

/-- Basic graph patterns obey the rules, whatever they are made of. -/
theorem triples (hr : r.SparesTriples) (ts : List Triple) : (Pattern.triples ts).Obeys r :=
  ⟨hr.block ts, fun t _ => ⟨hr.term t.subject, hr.predicate t.predicate, hr.term t.object⟩⟩

end Rules.SparesTriples

/-! ## Conditions -/

/-- Whether the pattern is a query of its own. -/
def Pattern.isSubquery : Pattern → Bool
  | .subquery _ _ _ _ => true
  | _ => false

/-- Whether the pattern is a group. -/
def Pattern.isGroup : Pattern → Bool
  | .group _ => true
  | _ => false

/-- Whether an operator has the operands it needs: a single one, unless it stands between them. -/
def PathOperator.HasOperands (operator : PathOperator) (items : List Path) : Prop :=
  if operator.isBinary then items ≠ [] else ∃ item, items = [item]

/-- Whether a text is made of letters, as the fixed parts of names are. -/
def IsWord (text : String) : Prop := ∀ ch ∈ text.toList, ch.isAlpha = true

instance (text : String) : Decidable (IsWord text) :=
  decidable_of_iff (text.toList.all Char.isAlpha = true) List.all_eq_true

/-- The rules admit all that the patterns of a condition at a position are made of. -/
structure Rules.Admits (c : Condition) (suffix : String) (i : Nat) : Prop where
  item : r.var .item
  reference : r.var .reference
  numbered : ∀ word, IsWord word → r.var (.numbered word i)
  underscored : ∀ word, IsWord word → r.var (.underscored word i)
  /-- Instants are named after the property. -/
  property : c.datatype = .time → r.var (.underscored c.property i)
  /-- Any value is a blank node named after the property. -/
  label : c.hasBlankNode = true → (anyValueNode c.property suffix).Obeys r
  iri : ∀ iri, r.iri iri
  operand : ∀ t : Term, t.label? = none → r.operand t
  path : ∀ operator items, operator.HasOperands items → r.path operator items
  block : ∀ triples, triples ≠ [] → r.block triples
  body : ∀ ps, (∀ p ∈ ps, p.isSubquery = false) → r.body ps
  ungrouped : ∀ ps, (∀ p ∈ ps, p.isSubquery = false) → r.ungrouped ps

/-- The patterns obey the rules, and none of them is a query of its own. -/
def Flat (ps : List Pattern) : Prop := ObeyIn r ps ∧ ∀ p ∈ ps, p.isSubquery = false

section

variable {r} {s : Settings} {n : Namespaces} {c : Condition} {scope : Scope} {suffix : String}
  {i : Nat} {ps qs : List Pattern}

theorem flat_nil : Flat r [] := ⟨trivial, by simp⟩

theorem Flat.append (hps : Flat r ps) (hqs : Flat r qs) : Flat r (ps ++ qs) :=
  ⟨obeyIn_append.2 ⟨hps.1, hqs.1⟩, List.forall_mem_append.2 ⟨hps.2, hqs.2⟩⟩

theorem flat_bind {target : Variable} {value : Expression} (htarget : r.var target)
    (hvalue : value.Obeys r) : Flat r [.bind target value] :=
  ⟨⟨⟨htarget, hvalue⟩, trivial⟩, by simp [Pattern.isSubquery]⟩

theorem flat_comparison {left right : Expression} (operator : Operator) (hleft : left.Obeys r)
    (hright : right.Obeys r) : Flat r [.comparison left operator right] :=
  ⟨⟨⟨hleft, hright⟩, trivial⟩, by simp [Pattern.comparison, Pattern.isSubquery]⟩

namespace Rules.Admits

variable (hr : r.Admits c suffix i)
include hr

/-! ### Terms, paths and triples -/

theorem obeys_iri (iri : Iri) : (Term.iri iri).Obeys r := hr.iri iri

theorem obeys_literal (l : Literal) : (Term.literal l).Obeys r := fun datatype _ => hr.iri datatype

theorem path_iri (iri : Iri) : (Path.iri iri).Obeys r := hr.iri iri

theorem obeys_sequence (item : Path) (items : List Path) :
    (Path.sequence (item :: items)).Obeys r ↔ PathsObey r (item :: items) :=
  and_iff_right (hr.path .sequence _ (List.cons_ne_nil _ _))

/-- A path of IRIs one after another. -/
theorem obeys_links (first : Iri) (others : List Iri) :
    (Path.sequence (.iri first :: others.map .iri)).Obeys r := by
  refine (hr.obeys_sequence _ _).2 ⟨hr.iri _, ?_⟩
  induction others with
  | nil => trivial
  | cons iri others ih => exact ⟨hr.iri _, ih⟩

theorem obeys_claimTriple (n : Namespaces) (property : String) {statement : Variable}
    (h : r.var statement) : (claimTriple n property statement).Obeys r :=
  ⟨hr.item, hr.path_iri _, h⟩

/-! ### Patterns -/

/-- One basic graph pattern of triples that obey the rules. -/
theorem flat_triples {t : Triple} {ts : List Triple} (h : ∀ u ∈ t :: ts, u.Obeys r) :
    Flat r [.triples (t :: ts)] :=
  ⟨⟨⟨hr.block _ (List.cons_ne_nil _ _), h⟩, trivial⟩, by simp [Pattern.isSubquery]⟩

theorem flat_triple {subject object : Term} {predicate : Path} (hsubject : subject.Obeys r)
    (hpredicate : predicate.Obeys r) (hobject : object.Obeys r) :
    Flat r [.triple subject predicate object] :=
  hr.flat_triples (List.forall_mem_singleton.2 ⟨hsubject, hpredicate, hobject⟩)

theorem flat_minus (hps : Flat r ps) : Flat r [.minus ps] :=
  ⟨⟨⟨hr.body ps hps.2, hr.ungrouped ps hps.2, hps.1⟩, trivial⟩, by simp [Pattern.isSubquery]⟩

theorem flat_group (hps : Flat r ps) : Flat r [.group ps] :=
  ⟨⟨⟨hr.body ps hps.2, hps.1⟩, trivial⟩, by simp [Pattern.isSubquery]⟩

theorem flat_existence (negated : Bool) (hps : Flat r ps) :
    Flat r [.filter (.existence negated ps)] :=
  ⟨⟨⟨hr.body ps hps.2, hr.ungrouped ps hps.2, hps.1⟩, trivial⟩, by simp [Pattern.isSubquery]⟩

theorem flat_negateIf (negate : Bool) (hps : Flat r ps) : Flat r (negateIf negate ps) := by
  cases negate with
  | false => exact hps
  | true => exact hr.flat_minus hps

theorem flat_referenceFilter {statement : Variable} (hstatement : r.var statement)
    (references : References) : Flat r (referenceFilter n references statement) := by
  have hderived : Flat r [Pattern.triple statement (n.provenance "wasDerivedFrom")
      Variable.reference] := hr.flat_triple hstatement (hr.path_iri _) hr.reference
  cases references with
  | regardless => exact flat_nil
  | present | absent => exact hr.flat_existence _ hderived

theorem flat_withReferences {statement : Variable} (hstatement : r.var statement)
    (references : References) (hps : Flat r ps) :
    Flat r (withReferences n references statement ps) := by
  have hfilter := hr.flat_referenceFilter (n := n) hstatement references
  unfold withReferences
  split
  · exact hps
  · exact hr.flat_group (hps.append hfilter)

/-! ### Statements -/

theorem obeys_of_isConstant {t : Term} (ht : t.isConstant = true) : t.Obeys r := by
  cases t with
  | iri i => exact hr.iri i
  | literal l => exact fun datatype _ => hr.iri datatype
  | var v => exact absurd ht (by simp [Term.isConstant])
  | blank label => exact absurd ht (by simp [Term.isConstant])

/-- What prolongs a path to an entity. -/
theorem pathsObey_subclassTail {tail : List Path} (h : subclassTail s c = .ok tail) :
    PathsObey r tail := by
  unfold subclassTail at h
  split at h
  · split at h
    · cases h
      exact ⟨⟨hr.path _ _ ⟨_, rfl⟩, hr.iri _, trivial⟩, trivial⟩
    · exact absurd h (by simp)
  · cases h
    trivial

theorem pathsObey_tail {relation : Relation} {value : Term} {tail : List Path}
    (kind : StatementKind s c suffix relation value tail) : PathsObey r tail := by
  cases kind with
  | text _ _ => trivial
  | entity _ _ htail => exact hr.pathsObey_subclassTail htail
  | anyEntity _ _ => trivial
  | existence _ _ _ => trivial

/-- The object that a statement is linked to, and the path to it. -/
theorem obeys_statementObject {relation : Relation} {value object : Term} {tail : List Path}
    {path : Path} (kind : StatementKind s c suffix relation value tail)
    (h : statementObject n { c with relation } suffix i value tail = .ok (object, path)) :
    object.Obeys r ∧ path.Obeys r := by
  have hlink : Path.Obeys r (.iri (n.statement c.property)) := hr.iri _
  have hshort := (hr.obeys_sequence (.iri (n.statement c.property)) []).2 ⟨hlink, trivial⟩
  have hlong := (hr.obeys_sequence _ _).2 ⟨hlink, hr.pathsObey_tail kind⟩
  by_cases hrelation : relation = .regardless
  · have hlabel := hr.label (kind.regardless_iff.1 hrelation)
    subst hrelation
    cases h
    exact ⟨hlabel, hshort⟩
  · have hvalue := hr.obeys_of_isConstant (kind.isConstant hrelation)
    unfold statementObject at h
    cases relation with
    | matching =>
      cases h
      exact ⟨hvalue, hlong⟩
    | notMatching =>
      cases h
      exact ⟨hr.numbered _ (by decide), hshort⟩
    | regardless => exact absurd rfl hrelation
    | lessThan | moreThan => exact absurd h (by simp)

theorem flat_excludeValue {relation : Relation} {value : Term} {tail : List Path}
    (kind : StatementKind s c suffix relation value tail) :
    Flat r (excludeValue n { c with relation } value tail) := by
  unfold excludeValue
  split
  · rename_i hrelation
    have hvalue := hr.obeys_of_isConstant (kind.isConstant (by simp_all))
    have hpath := (hr.obeys_sequence (.iri (n.claim c.property))
      (.iri (n.statement c.property) :: tail)).2 ⟨hr.iri _, hr.iri _, hr.pathsObey_tail kind⟩
    exact hr.flat_minus (hr.flat_triple hr.item hpath hvalue)
  · exact flat_nil

theorem flat_statement {relation : Relation} {value : Term} {tail : List Path}
    (kind : StatementKind s c scope.suffix relation value tail) (hscope : scope.suffix = suffix)
    (hi : scope.position = some i)
    (h : statementPatterns n { c with relation } scope value tail = .ok ps) : Flat r ps := by
  subst hscope
  obtain ⟨j, object, path, hj, hobject, rfl⟩ := statementPatterns_eq_ok.1 h
  obtain rfl : i = j := Option.some.inj (hi.symm.trans hj)
  have hstatement : r.var (.numbered "statement" i) := hr.numbered _ (by decide)
  obtain ⟨hobject, hpath⟩ := hr.obeys_statementObject kind hobject
  have hfound : Flat r [statementLink n c.property i path object] :=
    hr.flat_triples (List.forall_mem_cons.2 ⟨hr.obeys_claimTriple n c.property hstatement,
      List.forall_mem_singleton.2 ⟨hstatement, hpath, hobject⟩⟩)
  exact (hr.flat_negateIf _ (hr.flat_withReferences hstatement _ hfound)).append
    (hr.flat_excludeValue kind)

/-! ### Quantities and points in time -/

theorem flat_amountFilter (relation : Relation) {amount : Variable} {other : Expression}
    (hamount : r.var amount) (hother : other.Obeys r) :
    Flat r (amountFilter relation amount other) := by
  have hoperand : r.operand (.var amount) := hr.operand _ rfl
  cases relation <;>
    simp [amountFilter, Relation.comparison, Pattern.comparison, Flat, ObeyIn, Pattern.Obeys,
      Expression.Obeys, Term.Obeys, hamount, hother, hoperand, Pattern.isSubquery]

theorem flat_plainAmountPatterns (amount : Option Binary64) :
    Flat r (plainAmountPatterns n c amount i) := by
  have hstatement : r.var (.numbered "statement" i) := hr.numbered _ (by decide)
  have hamount : r.var (.numbered "numericQuantity" i) := hr.numbered _ (by decide)
  have hfound : Flat r [.triples [claimTriple n c.property (.numbered "statement" i),
      ⟨Variable.numbered "statement" i, .sequence [n.statementValue c.property,
        n.ontology "quantityAmount"], Variable.numbered "numericQuantity" i⟩]] :=
    hr.flat_triples (List.forall_mem_cons.2 ⟨hr.obeys_claimTriple n c.property hstatement,
      List.forall_mem_singleton.2 ⟨hstatement, hr.obeys_links _ [_], hamount⟩⟩)
  have hreferences := hr.flat_referenceFilter (n := n) hstatement c.references
  cases amount with
  | none => exact hfound.append (flat_nil.append hreferences)
  | some amount =>
    have hfilter : Flat r (amountFilter c.relation (.numbered "numericQuantity" i)
        (Literal.ofAmount amount)) :=
      hr.flat_amountFilter c.relation hamount ⟨hr.obeys_literal _, hr.operand _ rfl⟩
    exact hfound.append (hfilter.append hreferences)

theorem flat_convertedAmountPatterns (conversion : String) (amount : Binary64) (unit : String) :
    Flat r (convertedAmountPatterns n conversion c amount unit i) := by
  have hvar : ∀ word, IsWord word → (Term.var (.numbered word i)).Obeys r := hr.numbered
  have hstatement : r.var (.numbered "statement" i) := hr.numbered _ (by decide)
  have hoperand : ∀ v : Variable, r.operand v := fun v => hr.operand _ rfl
  have hamount : Flat r [.bind (.numbered "userQuantity" i) (Literal.ofAmount amount)] :=
    flat_bind (hvar _ (by decide)) ⟨hr.obeys_literal _, hr.operand _ rfl⟩
  have hunit : Flat r [.bind (.numbered "userUnit" i) (n.entity unit)] :=
    flat_bind (hvar _ (by decide)) ⟨hr.obeys_iri _, hr.operand _ rfl⟩
  have hconverted : ∀ name word, IsWord word → Triple.Obeys r
      ⟨Variable.numbered "userUnit" i, .sequence [n.claim conversion,
        n.statementValue conversion, n.ontology name], Variable.numbered word i⟩ :=
    fun name word hword => ⟨hvar _ (by decide), hr.obeys_links _ [_, _], hvar word hword⟩
  have hnormalized : ∀ name word, IsWord word → Triple.Obeys r
      ⟨Variable.numbered "statement" i, .sequence [n.normalizedValue c.property,
        n.ontology name], Variable.numbered word i⟩ :=
    fun name word hword => ⟨hstatement, hr.obeys_links _ [_], hvar word hword⟩
  have hfactor := hr.flat_triples (List.forall_mem_cons.2
    ⟨hconverted "quantityAmount" "conversionFactor" (by decide), List.forall_mem_singleton.2
      (hconverted "quantityUnit" "coherentUnit" (by decide))⟩)
  have hproduct : Flat r [.bind (.numbered "coherentUserQuantity" i)
      (.binary .times (Variable.numbered "userQuantity" i)
        (Variable.numbered "conversionFactor" i))] :=
    flat_bind (hvar _ (by decide))
      ⟨⟨hvar _ (by decide), hoperand _⟩, hvar _ (by decide), hoperand _⟩
  have hfound := hr.flat_triples (List.forall_mem_cons.2
    ⟨hr.obeys_claimTriple n c.property hstatement, List.forall_mem_cons.2
      ⟨hnormalized "quantityAmount" "statementQuantity" (by decide), List.forall_mem_singleton.2
        (hnormalized "quantityUnit" "coherentUnit" (by decide))⟩⟩)
  have hfilter : Flat r (amountFilter c.relation (.numbered "statementQuantity" i)
      (Variable.numbered "coherentUserQuantity" i)) :=
    hr.flat_amountFilter c.relation (hvar _ (by decide)) ⟨hvar _ (by decide), hoperand _⟩
  exact (hamount.append <| hunit.append <| hfactor.append <| hproduct.append hfound).append
    (hfilter.append (hr.flat_referenceFilter hstatement c.references))

theorem flat_quantityCore {core : List Pattern} (h : QuantityCore s c i core) : Flat r core := by
  cases h with
  | anyAmount _ => exact hr.flat_plainAmountPatterns none
  | plain _ _ => exact hr.flat_plainAmountPatterns (some _)
  | converted _ _ _ => exact hr.flat_convertedAmountPatterns _ _ _

theorem flat_rangeHint (n : Namespaces) : Flat r [rangeHint n] :=
  hr.flat_triple (hr.obeys_iri _) (hr.path_iri _) (hr.obeys_literal _)

theorem flat_timeCore {core : List Pattern} (hd : c.datatype = .time) (h : TimeCore n c i core) :
    Flat r core := by
  have hvar : ∀ word, IsWord word → (Term.var (.underscored word i)).Obeys r := hr.underscored
  have hinstant : r.var (.underscored c.property i) := hr.property hd
  have hconstant : ∀ l : Literal, (Expression.term l).Obeys r :=
    fun l => ⟨hr.obeys_literal l, hr.operand _ rfl⟩
  have hoperand : (Expression.term (.var (.underscored c.property i))).Obeys r :=
    ⟨hinstant, hr.operand _ rfl⟩
  have hclaim := hr.obeys_claimTriple n c.property (hvar "statement" (by decide))
  have hvalue : Flat r (statementValuePatterns n c.property i) :=
    (hr.flat_triples (List.forall_mem_singleton.2 hclaim)).append
      (hr.flat_triple (hvar _ (by decide)) (hr.path_iri _) (hvar _ (by decide)))
  have hpoint : Flat r [instantPattern n c.property i] :=
    hr.flat_triple (hvar _ (by decide)) (hr.path_iri _) hinstant
  cases h with
  | anyInstant _ => exact hvalue.append hpoint
  | @day value pattern _ _ hpattern =>
    refine hvalue.append (hpoint.append (?_ : Flat r [pattern]))
    rcases dayPattern_cases hpattern with rfl | ⟨operator, rfl⟩
    · exact flat_bind hinstant (hconstant _)
    · exact flat_comparison operator hoperand (hconstant _)
  | @interval value following number pattern _ _ _ hpattern =>
    have hprecision : Flat r (precisionPatterns n number i) :=
      (hr.flat_triple (hvar _ (by decide)) (hr.path_iri _) (hvar _ (by decide))).append
        ((hr.flat_rangeHint n).append
          (flat_comparison _ ⟨hvar _ (by decide), hr.operand _ rfl⟩ (hconstant _)))
    refine (hvalue.append hprecision).append
      (hpoint.append ((hr.flat_rangeHint n).append (?_ : Flat r [pattern])))
    rcases intervalPattern_cases hpattern with ⟨before, operator, after, rfl⟩ | rfl | rfl
    · exact flat_comparison operator ⟨hconstant _, hoperand⟩ ⟨hoperand, hconstant _⟩
    · exact flat_comparison _ (hconstant _) hoperand
    · exact flat_comparison _ hoperand (hconstant _)

end Rules.Admits

/-- **The patterns of a condition obey rules that admit its parts**, and none of them is a query of
its own. -/
theorem Condition.flat_patterns (hr : r.Admits c scope.suffix i) (hi : scope.position = some i)
    (h : c.patterns s scope = .ok ps) : Flat r ps := by
  rcases Condition.patterns_cases h with
    ⟨relation, value, tail, kind, hps⟩ | ⟨hd, hps⟩ | ⟨hd, hps⟩
  · exact hr.flat_statement kind rfl hi hps
  · obtain ⟨j, core, hj, hcore, rfl⟩ := quantityPatterns_eq_ok.1 hps
    obtain rfl : i = j := Option.some.inj (hi.symm.trans hj)
    exact hr.flat_negateIf _ (hr.flat_quantityCore hcore)
  · obtain ⟨j, core, hj, hcore, rfl⟩ := timePatterns_eq_ok.1 hps
    obtain rfl : i = j := Option.some.inj (hi.symm.trans hj)
    have hstatement : r.var (.underscored "statement" i) := hr.underscored _ (by decide)
    exact hr.flat_negateIf _ (hr.flat_withReferences hstatement _ (hr.flat_timeCore hd hcore))

end

/-! ## Queries -/

/-- The rules admit what stands around the conditions of a query. -/
structure Rules.AdmitsFrame (s : Settings) : Prop where
  item : r.var .item
  itemLabel : r.var ⟨"itemLabel"⟩
  anyValue : r.label "anyValue"
  iri : ∀ iri, r.iri iri
  block : ∀ t, r.block [t]
  projection : ∀ v vs, r.projection (v :: vs)
  language : r.body [labelLanguagePattern s]
  labels : ∀ items : SelectQuery, r.body (withLabels s items).patterns ∧ r.body [items.toPattern]
  ungrouped : ∀ ps, (∀ p ∈ ps, p.isSubquery = false) → r.ungrouped ps

namespace Query

variable {r} {s : Settings} {q : Query} {built : Condition × Nat → List Pattern}
  {answer : SelectQuery}

/-- The patterns of a single condition obey the rules as they are, those of a group as the arms of a
union. -/
theorem obeyIn_elementPatterns (e : Element (Condition × Nat)) :
    ObeyIn r (e.map built).patterns ↔
      match e with
      | .single m => ObeyIn r (built m)
      | .group ms => r.arms (ms.map fun m => .group (built m)) ∧
          ∀ m ∈ ms, r.body (built m) ∧ ObeyIn r (built m) := by
  cases e with
  | single m => rfl
  | group ms =>
    rw [Element.map, Element.patterns, obeyIn_cons, and_iff_left obeyIn_nil, Pattern.Obeys,
      List.map_map, obeyIn_iff, List.forall_mem_map]
    rfl

theorem obeyIn_body_iff :
    ObeyIn r (q.body built) ↔ ∀ e ∈ q.tree, ObeyIn r (e.map built).patterns := by
  simp only [obeyIn_iff, body, List.forall_mem_flatMap]

theorem obeyIn_withAnyItem (hr : r.AdmitsFrame s) (ps : List Pattern) :
    ObeyIn r (withAnyItem s.namespaces ps) ↔ ObeyIn r ps := by
  have hany : (anyItem s.namespaces).Obeys r :=
    ⟨hr.block _, List.forall_mem_singleton.2 ⟨hr.item, hr.iri _, hr.anyValue⟩⟩
  unfold withAnyItem
  split
  · exact and_iff_right hany
  · rfl

/-- The frame that adds labels obeys the rules if the query in it does. -/
theorem obeys_withLabels (hr : r.AdmitsFrame s) (items : SelectQuery) :
    (withLabels s items).Obeys r ↔ items.Obeys r := by
  have hlanguage : (labelLanguagePattern s).Obeys r :=
    ⟨hr.block _, List.forall_mem_singleton.2
      ⟨hr.iri _, hr.iri _, fun datatype hd => absurd hd (by simp [Literal.plain])⟩⟩
  have hservice : (Pattern.service (s.namespaces.ontology "label") false
      [labelLanguagePattern s]).Obeys r := by
    refine ⟨hr.iri _, hr.language, hr.ungrouped _ ?_, hlanguage, trivial⟩
    simp [labelLanguagePattern, Pattern.triple, Pattern.isSubquery]
  have hungrouped := hr.ungrouped (withLabels s items).patterns (by
    simp [withLabels, Pattern.isSubquery])
  constructor
  · rintro ⟨-, -, -, -, -, ⟨-, hitems, -⟩, -⟩
    exact hitems
  · intro hitems
    refine ⟨hr.projection _ _, ?_, (hr.labels items).1, hungrouped, hservice,
      ⟨(hr.labels items).2, hitems, trivial⟩, trivial⟩
    exact List.forall_mem_cons.2 ⟨hr.item, List.forall_mem_singleton.2 hr.itemLabel⟩

/-- **What holds everywhere in a compiled query.**  The query obeys rules that admit its frame
exactly if the patterns of its conditions do, in their places. -/
theorem obeys_compile_iff (hr : r.AdmitsFrame s) (h : q.compile s = .ok answer) :
    ∃ built, q.Builds s built ∧ (answer.Obeys r ↔
      r.body (withAnyItem s.namespaces (q.body built)) ∧
        r.ungrouped (withAnyItem s.namespaces (q.body built)) ∧
          ∀ e ∈ q.tree, ObeyIn r (e.map built).patterns) := by
  obtain ⟨items, hitems, rfl⟩ := compile_eq_ok.1 h
  obtain ⟨built, hbuilt, rfl⟩ := compileItems_eq_ok.1 hitems
  refine ⟨built, hbuilt, ?_⟩
  have hprojection : ∀ v ∈ [Variable.item], r.var v := List.forall_mem_singleton.2 hr.item
  have hlabels : ∀ items : SelectQuery,
      (if q.omitLabels then items else withLabels s items).Obeys r ↔ items.Obeys r := by
    intro items
    split
    · rfl
    · exact obeys_withLabels hr items
  rw [hlabels, ← obeyIn_body_iff, ← obeyIn_withAnyItem hr]
  exact (and_iff_right (hr.projection _ _)).trans (and_iff_right hprojection)

end Query

end WikibaseQuery

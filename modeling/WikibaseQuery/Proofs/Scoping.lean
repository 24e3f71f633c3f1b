import WikibaseQuery.Proofs.Everywhere
import WikibaseQuery.Proofs.Names

/-!
# Variables are found before they are read

Patterns between the same braces are evaluated one after the other.  A filter or a binding that
reads a variable which no pattern before it has found is no error, but it drops every solution.

* `ReadsKnown` — whatever filters and bindings read stands in a triple, or is bound, before them and
  between the same braces;
* `Sound.append`, `Sound.comparison`, `Sound.bind`, `sound_withReferences` — the rule is kept where
  patterns are added one after the other, and where they are put into braces of their own;
* `Condition.sound` — the patterns of a condition keep the rule;
* `Query.soundly_scoped` — a compiled query keeps it between all of its braces.
-/

namespace WikibaseQuery

/-! ## What is read, and what is known -/

/-- The expression reads the variable.  In tests for existence it reads all variables but the
reference, which is looked for only there. -/
def Expression.Reads (e : Expression) (v : Variable) : Prop :=
  .var v ∈ e.terms ∨ (.var v ∈ e.nested.flatMap Pattern.terms ∧ v ≠ .reference)

/-- The filter or the binding reads the variable. -/
def Pattern.Reads : Pattern → Variable → Prop
  | .bind _ value, v => value.Reads v
  | .filter condition, v => condition.Reads v
  | _, _ => False

/-- The variable stands in the triples, or is the target of the binding. -/
def Pattern.Introduces : Pattern → Variable → Prop
  | .triples ts, v => ∃ t ∈ ts, .var v ∈ t.terms
  | .bind target _, v => v = target
  | _, _ => False

/-- One of the patterns introduces the variable in their own braces. -/
def Known (ps : List Pattern) (v : Variable) : Prop := ∃ p ∈ ps, p.Introduces v

/-- Whatever a pattern reads is known from those before it. -/
def ReadsKnown (ps : List Pattern) : Prop :=
  ∀ before p after, ps = before ++ p :: after → ∀ v, p.Reads v → Known before v

section

variable {ps qs : List Pattern} {v : Variable}

@[simp] theorem reads_term (t : Term) : (Expression.term t).Reads v ↔ .var v = t := by
  simp [Expression.Reads, Expression.terms]

@[simp] theorem reads_binary (operator : Operator) (left right : Expression) :
    (Expression.binary operator left right).Reads v ↔ left.Reads v ∨ right.Reads v := by
  simp only [Expression.Reads, Expression.terms, nested_binary, List.flatMap_append,
    List.mem_append]
  tauto

theorem reads_existence (negated : Bool) :
    (Expression.existence negated ps).Reads v ↔
      .var v ∈ collect Pattern.terms ps ∧ v ≠ .reference := by
  rw [Expression.Reads, Expression.terms, flatMap_nested_existence]
  exact or_iff_right List.not_mem_nil

@[simp] theorem known_cons {p : Pattern} :
    Known (p :: ps) v ↔ p.Introduces v ∨ Known ps v := by
  simp [Known]

@[simp] theorem known_append : Known (ps ++ qs) v ↔ Known ps v ∨ Known qs v := by
  simp [Known, or_and_right, exists_or]

/-- Where nothing is read, nothing has to be known. -/
theorem readsKnown_of_readsNothing (h : ∀ p ∈ ps, ∀ v, ¬ p.Reads v) : ReadsKnown ps := by
  rintro before p after rfl v hv
  exact absurd hv (h p (by simp) v)

/-- **Patterns one after another** may read what those before them know. -/
theorem readsKnown_append (hps : ReadsKnown ps) (hqs : ∀ before p after,
    qs = before ++ p :: after → ∀ v, p.Reads v → Known (ps ++ before) v) :
    ReadsKnown (ps ++ qs) := by
  intro before p after heq v hv
  rcases List.append_eq_append_iff.1 heq with ⟨middle, rfl, hqs'⟩ | ⟨middle, rfl, hqs'⟩
  · exact hqs middle p after hqs' v hv
  · cases middle with
    | nil =>
      have hfirst := hqs [] p after (by simpa using hqs'.symm) v hv
      simpa using hfirst
    | cons b middle =>
      obtain ⟨rfl, -⟩ := List.cons.inj hqs'
      exact hps before p middle rfl v hv

theorem ReadsKnown.append (hps : ReadsKnown ps) (hqs : ReadsKnown qs) : ReadsKnown (ps ++ qs) := by
  refine readsKnown_append hps fun before p after heq v hv => ?_
  exact known_append.2 (.inr (hqs before p after heq v hv))

theorem ReadsKnown.flatMap {α : Type} {as : List α} {patterns : α → List Pattern}
    (h : ∀ a ∈ as, ReadsKnown (patterns a)) : ReadsKnown (as.flatMap patterns) := by
  induction as with
  | nil => exact readsKnown_of_readsNothing (by simp)
  | cons a as ih =>
    rw [List.forall_mem_cons] at h
    rw [List.flatMap_cons]
    exact h.1.append (ih h.2)

end

/-! ## Patterns and all within them -/

/-- Between any braces, whatever is read is known. -/
def scopingRules : Rules where
  arms := ReadsKnown
  body := ReadsKnown

theorem scopingRules_sparesTriples : scopingRules.SparesTriples where
  var _ := trivial
  label _ := trivial
  iri _ := trivial
  operand _ := trivial
  path _ _ := trivial
  block _ := trivial

/-- Whatever is read is known, in these patterns and within them. -/
def Sound (ps : List Pattern) : Prop := ReadsKnown ps ∧ ObeyIn scopingRules ps

section

variable {ps qs : List Pattern} {n : Namespaces} {s : Settings} {c : Condition} {i : Nat}
  {statement : Variable}

theorem sound_nil : Sound [] := ⟨readsKnown_of_readsNothing (by simp), trivial⟩

theorem Sound.append (hps : Sound ps) (hqs : Sound qs) : Sound (ps ++ qs) :=
  ⟨hps.1.append hqs.1, obeyIn_append.2 ⟨hps.2, hqs.2⟩⟩

/-- One more pattern may read what those before it know. -/
theorem Sound.concat {p : Pattern} (hps : Sound ps) (hp : p.Obeys scopingRules)
    (hreads : ∀ v, p.Reads v → Known ps v) : Sound (ps ++ [p]) := by
  refine ⟨readsKnown_append hps.1 fun before q after heq v hv => ?_,
    obeyIn_append.2 ⟨hps.2, hp, trivial⟩⟩
  obtain rfl : before = [] := by cases before <;> simp_all
  obtain rfl : p = q := (List.cons.inj heq).1
  exact known_append.2 (.inl (hreads v hv))

theorem sound_triples (ts : List Triple) : Sound [.triples ts] :=
  ⟨readsKnown_of_readsNothing (by simp [Pattern.Reads]),
    scopingRules_sparesTriples.triples ts, trivial⟩

theorem sound_minus (h : Sound ps) : Sound [.minus ps] :=
  ⟨readsKnown_of_readsNothing (by simp [Pattern.Reads]), ⟨h.1, trivial, h.2⟩, trivial⟩

theorem sound_group (h : Sound ps) : Sound [.group ps] :=
  ⟨readsKnown_of_readsNothing (by simp [Pattern.Reads]), ⟨h.1, h.2⟩, trivial⟩

theorem Sound.comparison {left right : Expression} (operator : Operator) (hps : Sound ps)
    (hleft : left.Obeys scopingRules) (hright : right.Obeys scopingRules)
    (hreads : ∀ v, left.Reads v ∨ right.Reads v → Known ps v) :
    Sound (ps ++ [.comparison left operator right]) :=
  hps.concat ⟨hleft, hright⟩ fun v hv => hreads v ((reads_binary operator left right).1 hv)

theorem Sound.bind {target : Variable} {value : Expression} (hps : Sound ps)
    (hvalue : value.Obeys scopingRules) (hreads : ∀ v, value.Reads v → Known ps v) :
    Sound (ps ++ [.bind target value]) :=
  hps.concat ⟨trivial, hvalue⟩ hreads

/-! ### References and negation -/

/-- The test for references reads the statement alone. -/
theorem Sound.append_referenceFilter (hps : Sound ps) (hstatement : Known ps statement)
    (references : References) : Sound (ps ++ referenceFilter n references statement) := by
  have hderived : Sound [Pattern.triple statement (n.provenance "wasDerivedFrom")
      Variable.reference] := sound_triples _
  have htest : ∀ negated, Sound (ps ++ [.filter (.existence negated
      [Pattern.triple statement (n.provenance "wasDerivedFrom") Variable.reference])]) := by
    intro negated
    refine hps.concat ⟨hderived.1, trivial, hderived.2⟩ fun v hv => ?_
    obtain ⟨hterm, hne⟩ := (reads_existence negated).1 hv
    have hcases : v = statement ∨ v = .reference := by
      simpa [Pattern.triple, Pattern.terms, Triple.terms] using hterm
    exact hcases.resolve_right hne ▸ hstatement
  cases references with
  | regardless =>
    rw [referenceFilter, List.append_nil]
    exact hps
  | present | absent => exact htest _

theorem sound_withReferences (n : Namespaces) (hps : Sound ps) (hstatement : Known ps statement)
    (references : References) : Sound (withReferences n references statement ps) := by
  unfold withReferences
  split
  · exact hps
  · exact sound_group (hps.append_referenceFilter hstatement references)

theorem sound_negateIf (hps : Sound ps) (negate : Bool) : Sound (negateIf negate ps) := by
  cases negate with
  | false => exact hps
  | true => exact sound_minus hps

/-! ### Conditions -/

/-- The statement of a condition is known from the triple that leads to it. -/
theorem known_claim (property : String) (others : List Triple) :
    Known (.triples (claimTriple n property statement :: others) :: ps) statement :=
  ⟨_, List.mem_cons_self .., _, List.mem_cons_self .., by simp [claimTriple, Triple.terms]⟩

theorem sound_statement {scope : Scope} {value : Term} {tail : List Path}
    (h : statementPatterns n c scope value tail = .ok ps) : Sound ps := by
  obtain ⟨j, object, path, -, -, rfl⟩ := statementPatterns_eq_ok.1 h
  have hlink : Sound [statementLink n c.property j path object] := sound_triples _
  have hexclude : Sound (excludeValue n c value tail) := by
    unfold excludeValue
    split
    · exact sound_minus (sound_triples _)
    · exact sound_nil
  have hfound := sound_withReferences n hlink (known_claim _ _) c.references
  exact (sound_negateIf hfound c.negate).append hexclude

theorem Sound.append_amountFilter {amount : Variable} {other : Term} (hps : Sound ps)
    (hamount : Known ps amount) (hother : ∀ v, .var v = other → Known ps v)
    (relation : Relation) : Sound (ps ++ amountFilter relation amount other) := by
  have hterm := scopingRules_sparesTriples.expression
  have hfilter : ∀ operator, Sound (ps ++ [.comparison amount operator other]) := by
    intro operator
    refine hps.comparison operator (hterm _) (hterm _) fun v hv => ?_
    rcases hv with hv | hv
    · obtain rfl : v = amount := by simpa using hv
      exact hamount
    · exact hother v (by simpa using hv)
  cases relation with
  | regardless =>
    rw [amountFilter, Relation.comparison, List.append_nil]
    exact hps
  | _ => exact hfilter _

/-- Once the statement and the amounts are found, these are compared and its references tested. -/
theorem Sound.amounts {amount : Variable} {other : Term} (hps : Sound ps)
    (hstatement : Known ps statement) (hamount : Known ps amount)
    (hother : ∀ v, .var v = other → Known ps v) (relation : Relation) (references : References) :
    Sound (ps ++ (amountFilter relation amount other ++
      referenceFilter n references statement)) := by
  rw [← List.append_assoc]
  have hcompared := hps.append_amountFilter hamount hother relation
  exact hcompared.append_referenceFilter (known_append.2 (.inl hstatement)) references

/-- Amounts are compared after they have been found, and converted after the unit has. -/
theorem QuantityCore.sound {core : List Pattern} (h : QuantityCore s c i core) : Sound core := by
  have hterm := scopingRules_sparesTriples.expression
  cases h with
  | anyAmount _ => exact (sound_triples _).append_referenceFilter (known_claim _ _) c.references
  | plain _ _ =>
    refine (sound_triples _).amounts (known_claim _ _) ?_ ?_ c.relation c.references
    · simp [Pattern.Introduces, Triple.terms]
    · simp
  | converted _ _ _ =>
    refine Sound.amounts (?_ : Sound ([_, _, _, _] ++ [_])) ?_ ?_ ?_ c.relation c.references
    · refine (?_ : Sound ([_, _, _] ++ [_])).append (sound_triples _)
      refine Sound.bind (?_ : Sound ([_, _] ++ [_])) ⟨hterm _, hterm _⟩ ?_
      · exact ((sound_nil.bind (hterm _) (by simp)).bind (hterm _) (by simp)).append
          (sound_triples _)
      · simp [Pattern.Introduces, Triple.terms]
    all_goals simp [Pattern.Introduces, Triple.terms, claimTriple]

/-- Patterns that end in the one that finds an instant may be followed by the pattern that binds it or
compares it. -/
theorem Sound.concat_dayPattern {instant : Variable} {value : Literal} {pattern : Pattern}
    (hps : Sound ps) (hinstant : Known ps instant)
    (hpattern : dayPattern c instant value = .ok pattern) : Sound (ps ++ [pattern]) := by
  have hterm := scopingRules_sparesTriples.expression
  rcases dayPattern_cases hpattern with rfl | ⟨operator, rfl⟩
  · exact hps.bind (hterm _) (by simp)
  · exact hps.comparison operator (hterm _) (hterm _) (by simpa using hinstant)

theorem Sound.concat_intervalPattern {instant : Variable} {value following : Literal}
    {pattern : Pattern} (hps : Sound ps) (hinstant : Known ps instant)
    (hpattern : intervalPattern c instant value following = .ok pattern) :
    Sound (ps ++ [pattern]) := by
  have hterm := scopingRules_sparesTriples.expression
  rcases intervalPattern_cases hpattern with ⟨before, operator, after, rfl⟩ | rfl | rfl
  · exact hps.comparison operator ⟨hterm _, hterm _⟩ ⟨hterm _, hterm _⟩ (by simpa using hinstant)
  all_goals exact hps.comparison _ (hterm _) (hterm _) (by simpa using hinstant)

/-- An instant is compared after it has been found, and so is its precision. -/
theorem TimeCore.sound {core : List Pattern} (h : TimeCore n c i core) :
    Sound core ∧ Known core (.underscored "statement" i) := by
  have hterm := scopingRules_sparesTriples.expression
  have hvalue : Sound (statementValuePatterns n c.property i) :=
    (sound_triples _).append (sound_triples _)
  have hinstant : (instantPattern n c.property i).Introduces (.underscored c.property i) :=
    ⟨_, List.mem_cons_self .., by simp [Triple.terms]⟩
  cases h with
  | anyInstant _ => exact ⟨hvalue.append (sound_triples _), known_claim _ _⟩
  | day _ _ hpattern =>
    refine ⟨?_, known_claim _ _⟩
    have hfound : Sound (statementValuePatterns n c.property i ++
        [instantPattern n c.property i]) := hvalue.append (sound_triples _)
    rw [List.append_cons]
    exact hfound.concat_dayPattern (by simp [hinstant]) hpattern
  | @interval value following number _ _ _ _ hpattern =>
    refine ⟨?_, known_claim _ _⟩
    have hprecision : Sound (statementValuePatterns n c.property i ++
        precisionPatterns n number i) := by
      refine hvalue.append (?_ : Sound ([_, _] ++ [_]))
      refine ((sound_triples _).append (sound_triples _)).comparison _ (hterm _) (hterm _) ?_
      simp [Pattern.Introduces, Triple.terms]
    have hfound : Sound (statementValuePatterns n c.property i ++ precisionPatterns n number i ++
        [instantPattern n c.property i, rangeHint n]) :=
      hprecision.append ((sound_triples _).append (sound_triples _))
    have hlast : ∀ a b d : Pattern, [a, b, d] = [a, b] ++ [d] := fun _ _ _ => rfl
    rw [hlast, ← List.append_assoc]
    exact hfound.concat_intervalPattern (by simp [hinstant]) hpattern

/-- **The patterns of a condition** read only what is known. -/
theorem Condition.sound {scope : Scope} (h : c.patterns s scope = .ok ps) : Sound ps := by
  rcases Condition.patterns_cases h with
    ⟨relation, value, tail, kind, hps⟩ | ⟨hd, hps⟩ | ⟨hd, hps⟩
  · exact sound_statement hps
  · obtain ⟨j, core, -, hcore, rfl⟩ := quantityPatterns_eq_ok.1 hps
    exact sound_negateIf hcore.sound c.negate
  · obtain ⟨j, core, -, hcore, rfl⟩ := timePatterns_eq_ok.1 hps
    obtain ⟨hsound, hknown⟩ := hcore.sound
    exact sound_negateIf (sound_withReferences s.namespaces hsound hknown c.references) c.negate

end

/-! ## Queries -/

/-- Between any braces of the query, whatever is read is known. -/
def SoundlyScoped (q : SelectQuery) : Prop := q.Obeys scopingRules

namespace Query

variable {s : Settings} {q : Query} {built : Condition × Nat → List Pattern}

theorem scopingRules_admitsFrame (s : Settings) : scopingRules.AdmitsFrame s where
  item := trivial
  itemLabel := trivial
  anyValue := trivial
  iri _ := trivial
  block _ := trivial
  projection _ _ := trivial
  language := (sound_triples _).1
  labels _ := ⟨readsKnown_of_readsNothing (by simp [withLabels, Pattern.Reads, SelectQuery.toPattern]),
    readsKnown_of_readsNothing (by simp [Pattern.Reads, SelectQuery.toPattern])⟩
  ungrouped _ _ := trivial

theorem sound_elementPatterns {e : Element (Condition × Nat)}
    (h : ∀ m ∈ e.members, Sound (built m)) : Sound (e.map built).patterns := by
  cases e with
  | single m => exact h m (List.mem_singleton_self m)
  | group ms =>
    have harms : ReadsKnown (ms.map fun m => .group (built m)) :=
      readsKnown_of_readsNothing (List.forall_mem_map.2 fun m _ v hv => hv)
    have hunion : ReadsKnown [.union ((ms.map built).map .group)] :=
      readsKnown_of_readsNothing (by simp [Pattern.Reads])
    exact ⟨hunion, (obeyIn_elementPatterns _).2 ⟨harms, h⟩⟩

theorem readsKnown_withAnyItem (n : Namespaces) {ps : List Pattern} (h : ReadsKnown ps) :
    ReadsKnown (withAnyItem n ps) := by
  unfold withAnyItem
  split
  · exact (sound_triples _).1.append h
  · exact h

/-- **Variables are found before they are read.**  Between any braces of a compiled query, whatever a
filter or a binding reads stands in a triple, or is bound, before it and between the same braces; and
so does the statement whose references are tested. -/
theorem soundly_scoped {answer : SelectQuery} (h : q.compile s = .ok answer) :
    SoundlyScoped answer := by
  obtain ⟨built, hbuilt, hobeys⟩ := obeys_compile_iff (scopingRules_admitsFrame s) h
  have helement : ∀ e ∈ q.tree, Sound (e.map built).patterns := fun e he =>
    sound_elementPatterns fun m hm => Condition.sound (hbuilt m (mem_zipIdx_of_mem_tree he hm))
  have hbody : ReadsKnown (q.body built) := .flatMap fun e he => (helement e he).1
  exact hobeys.2 ⟨readsKnown_withAnyItem s.namespaces hbody, trivial,
    fun e he => (helement e he).2⟩

/-- An amount with a unit and with references, or no instant before 1789 without references. -/
def heightOrAge : Query where
  conditions :=
    [ ⟨"P2044", .quantity, .quantity (.zero false) (some "Q11573"), .moreThan, .present, false,
        false, none⟩,
      ⟨"P571", .time, .time "+1789-00-00T00:00:00Z" 9, .lessThan, .absent, false, true,
        some .or⟩ ]
  limit := none
  omitLabels := false

/-- The conversion, the filters and the tests for references stand in two arms of a union. -/
theorem soundly_scoped_heightOrAge :
    ∃ answer, heightOrAge.compile { conversionProperty := some "P2370" } = .ok answer ∧
      SoundlyScoped answer := by
  obtain ⟨answer, hanswer⟩ :
      ∃ answer, heightOrAge.compile { conversionProperty := some "P2370" } = .ok answer := ⟨_, rfl⟩
  exact ⟨answer, hanswer, soundly_scoped hanswer⟩

end Query

end WikibaseQuery

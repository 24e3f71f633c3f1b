import WikibaseQuery.Proofs.Grammar
import WikibaseQuery.Proofs.Scanning

/-!
# Printed queries are grammatical

The lexemes of a query are derived in the grammar part by part, from the terms up.  The grammar asks
for some things that the syntax of queries does not: a union has arms, a query shows something, and
a query within another one is alone in its braces.  `grammarRules` gathers them.

* `Path.derives`, `Expression.derives`, `Pattern.fits` — the parts of a query that obeys the rules;
* `SelectQuery.isQuery` — the lexemes of such a query are those of a SPARQL query;
* `Query.render_grammatical` — compiled queries obey the rules, so their text is grammatical.
-/

namespace WikibaseQuery

/-! ## Expressions of the grammar -/

section

variable {ls ms : List (List Char)}

theorem derives_unaryExpression (h : Derives (.rule .primaryExpression) ls) :
    Derives (.rule .unaryExpression) ls := .rule (.choice (by simp) h)

theorem derives_numericExpression (h : Derives (.rule .multiplicativeExpression) ls) :
    Derives (.rule .numericExpression) ls := .rule (.rule h.star_nil)

theorem derives_valueLogical (h : Derives (.rule .relationalExpression) ls) :
    Derives (.rule .valueLogical) ls := .rule h

theorem derives_conditionalAndExpression (h : Derives (.rule .valueLogical) ls) :
    Derives (.rule .conditionalAndExpression) ls := .rule h.star_nil

theorem derives_expression (h : Derives (.rule .conditionalAndExpression) ls) :
    Derives (.rule .expression) ls := .rule (.rule h.star_nil)

theorem derives_expression_of_relational (h : Derives (.rule .relationalExpression) ls) :
    Derives (.rule .expression) ls :=
  derives_expression (derives_conditionalAndExpression (derives_valueLogical h))

theorem derives_relationalExpression (h : Derives (.rule .numericExpression) ls) :
    Derives (.rule .relationalExpression) ls := .rule h.opt_nil

/-- What may stand at the side of an operator. -/
theorem derives_operand (h : Derives (.rule .primaryExpression) ls) :
    Derives (.rule .numericExpression) ls :=
  derives_numericExpression (.rule (derives_unaryExpression h).star_nil)

theorem derives_expression_of_primary (h : Derives (.rule .primaryExpression) ls) :
    Derives (.rule .expression) ls :=
  derives_expression_of_relational (derives_relationalExpression (derives_operand h))

/-- More of the same after a symbol. -/
theorem Derives.separated {s : String} (hs : s ∈ symbols) {e : Ebnf} (hl : Derives e ls)
    (hm : Derives e ms) : Derives (.separated s e) (ls ++ s.toList :: ms) := by
  have hmore := ((derives_symbol hs).pair hm).more .stop
  simpa [Ebnf.separated] using hl.pair hmore

theorem derives_comparison {s : String} (hs : s ∈ Nonterminal.comparisons)
    (hl : Derives (.rule .numericExpression) ls) (hm : Derives (.rule .numericExpression) ms) :
    Derives (.rule .relationalExpression) (ls ++ s.toList :: ms) := by
  have hsymbols : ∀ s ∈ Nonterminal.comparisons, s ∈ symbols := by decide
  have hright := (derives_symbol (hsymbols s hs)).pair hm
  exact .rule (hl.pair (.opt (.choice (List.mem_append_left _ (List.mem_map_of_mem hs)) hright)))

/-- An operator between two operands. -/
theorem derives_operation (operator : Operator) (hl : Derives (.rule .primaryExpression) ls)
    (hm : Derives (.rule .primaryExpression) ms) :
    Derives (.rule .expression) (ls ++ operator.symbol.toList :: ms) := by
  have hnumber := derives_operand hl
  have hnumber' := derives_operand hm
  have hlogical := derives_valueLogical (derives_relationalExpression hnumber)
  have hlogical' := derives_valueLogical (derives_relationalExpression hnumber')
  cases operator with
  | times =>
    have htimes := (derives_symbol (s := "*") (by decide)).pair (derives_unaryExpression hm)
    have hfactor : Derives (.choice [.seq [.symbol "*", .rule .unaryExpression],
        .seq [.symbol "/", .rule .unaryExpression]]) ("*".toList :: ms) := .choice (by simp) htimes
    have hproduct : Derives (.rule .multiplicativeExpression) (ls ++ "*".toList :: ms) := by
      have hall := (derives_unaryExpression hl).pair (hfactor.more .stop)
      rw [List.append_nil] at hall
      exact .rule hall
    exact derives_expression_of_relational
      (derives_relationalExpression (derives_numericExpression hproduct))
  | and => exact derives_expression (.rule (hlogical.separated (by decide) hlogical'))
  | or =>
    exact .rule (.rule ((derives_conditionalAndExpression hlogical).separated (by decide)
      (derives_conditionalAndExpression hlogical')))
  | _ => exact derives_expression_of_relational (derives_comparison (by decide) hnumber hnumber')

end

/-! ## Terms -/

theorem derives_keyword {w : String} (h : w ∈ keywords) : Derives (.word w) [w.toList] :=
  derives_word (matches_keyword h)

theorem derives_variable {v : Variable} (h : IsPlainName v.name) :
    Derives (.rule .var) [v.print] := .rule (.choice (by simp) (.terminal (matches_variable h)))

section

variable {table : List Shorthand} (htable : LabelsFit table)
include htable

theorem derives_iri (i : Iri) : Derives (.rule .iri) [writeIri table i] := by
  have hshort : Derives (.rule .prefixedName) [writeIri table i] →
      Derives (.rule .iri) [writeIri table i] := fun h => .rule (.choice (by simp) h)
  rcases matches_writeIri htable i with h | h | h
  · exact .rule (.choice (by simp) (.terminal h))
  · exact hshort (.rule (.choice (by simp) (.terminal h)))
  · exact hshort (.rule (.choice (by simp) (.terminal h)))

theorem derives_literal (l : Literal) : Derives (.rule .rdfLiteral) (l.lexemes table) := by
  have hstring : Derives (.rule .string) ['"' :: (escapeLiteral l.text.toList ++ ['"'])] :=
    .rule (.choice (by simp) (.terminal (matches_quoted l.text)))
  unfold Literal.lexemes
  cases l.datatype with
  | none => exact .rule hstring.opt_nil
  | some datatype =>
    have hdatatype := (derives_symbol (s := "^^") (by decide)).pair (derives_iri htable datatype)
    exact .rule (hstring.pair (.opt (.choice (by simp) hdatatype)))

end

/-- What a printed query has to be like for the grammar. -/
def grammarRules : Rules where
  var v := IsPlainName v.name
  label := IsPlainName
  operand t := t.label? = none
  path := PathOperator.HasOperands
  arms as := as ≠ []
  body ps := (∀ p ∈ ps, p.isSubquery = false) ∨ ∃ p, ps = [p]
  projection vs := vs ≠ []

theorem grammarRules_scannable : grammarRules.Scannable where
  var _ h := h
  label _ h := h
  path _ _ h := h

section

variable {table : List Shorthand} (htable : LabelsFit table)
include htable

theorem Term.derives {t : Term} (h : t.Obeys grammarRules) :
    Derives (.rule .varOrTerm) (t.lexemes table) := by
  have hterm : ∀ {ls}, Derives (.rule .graphTerm) ls → Derives (.rule .varOrTerm) ls :=
    fun h => .rule (.choice (by simp) h)
  cases t with
  | var v => exact .rule (.choice (by simp) (derives_variable h))
  | iri i => exact hterm (.rule (.choice (by simp) (derives_iri htable i)))
  | literal l => exact hterm (.rule (.choice (by simp) (derives_literal htable l)))
  | blank label =>
    have hnode : Derives (.rule .blankNode) ['_' :: ':' :: label.toList] :=
      .rule (.choice (by simp) (.terminal (matches_label h)))
    exact hterm (.rule (.choice (by simp) hnode))

/-- Any term but a blank node is an operand. -/
theorem Term.derives_operand {t : Term} (h : t.Obeys grammarRules) (hlabel : t.label? = none) :
    Derives (.rule .primaryExpression) (t.lexemes table) := by
  cases t with
  | var v => exact .rule (.choice (by simp) (derives_variable h))
  | iri i =>
    have hiri : Derives (.rule .iriOrFunction) [writeIri table i] :=
      .rule (derives_iri htable i).opt_nil
    exact .rule (.choice (by simp) hiri)
  | literal l => exact .rule (.choice (by simp) (derives_literal htable l))
  | blank label => exact absurd hlabel (by simp [Term.label?])

end

/-! ## Paths and triples -/

section

variable {ls : List (List Char)}

theorem derives_pathElt (h : Derives (.rule .pathPrimary) ls) :
    Derives (.rule .pathElt) ls := .rule h.opt_nil

theorem derives_pathEltOrInverse (h : Derives (.rule .pathElt) ls) :
    Derives (.rule .pathEltOrInverse) ls := .rule (.choice (by simp) h)

theorem derives_pathSequence (h : Derives (.rule .pathEltOrInverse) ls) :
    Derives (.rule .pathSequence) ls := .rule h.star_nil

theorem derives_path (h : Derives (.rule .pathSequence) ls) : Derives (.rule .path) ls :=
  .rule (.rule h.star_nil)

/-- Some expression in parentheses. -/
theorem Derives.parenthesized {e : Ebnf} (h : Derives e ls) :
    Derives (.seq [.symbol "(", e, .symbol ")"]) ("(".toList :: (ls ++ [")".toList])) := by
  have hclose := (derives_symbol (s := ")") (by decide)).cons .nil
  exact (derives_symbol (s := "(") (by decide)).cons (h.cons hclose)

theorem derives_pathPrimary (h : Derives (.rule .path) ls) :
    Derives (.rule .pathPrimary) ("(".toList :: (ls ++ [")".toList])) :=
  .rule (.choice (by simp) h.parenthesized)

/-- A path after `^`. -/
theorem derives_inverse (h : Derives (.rule .pathPrimary) ls) :
    Derives (.rule .pathPrimary) ("(".toList :: "^".toList :: (ls ++ [")".toList])) := by
  have hinverse := (derives_symbol (s := "^") (by decide)).pair (derives_pathElt h)
  have hpath := derives_path (derives_pathSequence (.rule (.choice (by simp) hinverse)))
  exact derives_pathPrimary hpath

/-- A path before `*`, `+` or `?`. -/
theorem derives_repeated {s : String} (hs : s ∈ ["?", "*", "+"])
    (h : Derives (.rule .pathPrimary) ls) :
    Derives (.rule .pathPrimary) ("(".toList :: (ls ++ [s.toList, ")".toList])) := by
  have hsymbols : ∀ s ∈ ["?", "*", "+"], s ∈ symbols := by decide
  have hmod : Derives (.rule .pathMod) [s.toList] := by
    have hmem : Ebnf.symbol s ∈ ["?", "*", "+"].map Ebnf.symbol := List.mem_map_of_mem hs
    exact .rule (.choice hmem (derives_symbol (hsymbols s hs)))
  have helt : Derives (.rule .pathElt) (ls ++ [s.toList]) := .rule (h.pair hmod.opt)
  have hpath := derives_path (derives_pathSequence (derives_pathEltOrInverse helt))
  simpa using derives_pathPrimary hpath

/-- Paths with a separator between each two. -/
theorem derives_joined {table : List Shorthand} {s : String} (hs : s ∈ symbols) {e : Ebnf}
    {paths : List Path} (hne : paths ≠ []) (h : ∀ path ∈ paths, Derives e (path.lexemes table)) :
    Derives (.separated s e) (joinedLexemes table [s.toList] paths) := by
  have hfollowing : ∀ paths : List Path, (∀ path ∈ paths, Derives e (path.lexemes table)) →
      Derives (.star (.seq [.symbol s, e])) (followingLexemes table [s.toList] paths) := by
    intro paths h
    induction paths with
    | nil => exact .stop
    | cons path paths ih =>
      obtain ⟨hpath, hpaths⟩ := List.forall_mem_cons.1 h
      have hall := ((derives_symbol hs).pair hpath).more (ih hpaths)
      rwa [List.append_assoc] at hall
  obtain ⟨path, paths, rfl⟩ := List.exists_cons_of_ne_nil hne
  obtain ⟨hpath, hpaths⟩ := List.forall_mem_cons.1 h
  exact hpath.pair (hfollowing paths hpaths)

end

mutual

/-- A path is an IRI or stands in parentheses. -/
theorem Path.derives {table : List Shorthand} (htable : LabelsFit table) :
    (path : Path) → path.Obeys grammarRules →
      Derives (.rule .pathPrimary) (path.lexemes table)
  | .iri i, _ => .rule (.choice (by simp) (derives_iri htable i))
  | .compound operator items, h => by
    have hitems := pathsDerive htable items h.2
    cases operator with
    | sequence =>
      have hsteps := fun path hpath => derives_pathEltOrInverse (derives_pathElt (hitems path hpath))
      exact derives_pathPrimary
        (derives_path (.rule (derives_joined (s := "/") (by decide) h.1 hsteps)))
    | alternative =>
      have hchoices := fun path hpath =>
        derives_pathSequence (derives_pathEltOrInverse (derives_pathElt (hitems path hpath)))
      exact derives_pathPrimary (.rule (.rule (derives_joined (s := "|") (by decide) h.1 hchoices)))
    | inverse =>
      obtain ⟨item, rfl⟩ := h.1
      simpa [Path.lexemes, joinedLexemes, followingLexemes, PathOperator.symbol]
        using derives_inverse (hitems _ (List.mem_singleton_self _))
    | zeroOrMore | oneOrMore | zeroOrOne =>
      obtain ⟨item, rfl⟩ := h.1
      have hitem := hitems _ (List.mem_singleton_self _)
      simpa [Path.lexemes, joinedLexemes, followingLexemes]
        using derives_repeated (s := .singleton (PathOperator.symbol _)) (by decide) hitem

theorem pathsDerive {table : List Shorthand} (htable : LabelsFit table) :
    (paths : List Path) → PathsObey grammarRules paths →
      ∀ path ∈ paths, Derives (.rule .pathPrimary) (path.lexemes table)
  | [], _ => fun _ hpath => absurd hpath List.not_mem_nil
  | path :: paths, h => List.forall_mem_cons.2
    ⟨path.derives htable h.1, pathsDerive htable paths h.2⟩

end

theorem Triple.derives {table : List Shorthand} (htable : LabelsFit table) {t : Triple}
    (h : t.Obeys grammarRules) :
    ∃ ls, Derives (.rule .triplesSameSubjectPath) ls ∧ t.lexemes table = ls ++ [".".toList] := by
  have hsubject := Term.derives htable h.1
  have hverb : Derives (.rule .verbPath) (t.predicate.lexemes table) :=
    .rule (derives_path (derives_pathSequence (derives_pathEltOrInverse
      (derives_pathElt (Path.derives htable t.predicate h.2.1)))))
  have hnode : Derives (.rule .graphNodePath) (t.object.lexemes table) :=
    .rule (.choice (by simp) (Term.derives htable h.2.2))
  have hobjects : Derives (.rule .objectListPath) (t.object.lexemes table) :=
    .rule (Derives.star_nil (.rule hnode))
  have hproperties : Derives (.rule .propertyListPathNotEmpty)
      (t.predicate.lexemes table ++ (t.object.lexemes table ++ [])) :=
    .rule ((Derives.choice (by simp) hverb).cons (hobjects.cons (.cons .stop .nil)))
  refine ⟨_, .rule (.choice (by simp) (hsubject.pair hproperties)), ?_⟩
  simp [Triple.lexemes]

/-! ## Patterns -/

/-- The lexemes may stand between the braces of a group. -/
def IsBody (ls : List (List Char)) : Prop :=
  ∃ block others, ls = block ++ others ∧ Derives (.opt (.rule .triplesBlock)) block ∧
    Derives (.star (.seq [.rule .graphPatternNotTriples, .opt (.symbol "."),
      .opt (.rule .triplesBlock)])) others

section

variable {ls ms : List (List Char)}

theorem IsBody.derives (h : IsBody ls) : Derives (.rule .groupGraphPatternSub) ls := by
  obtain ⟨block, others, rfl, hblock, hothers⟩ := h
  exact .rule (hblock.pair hothers)

theorem isBody_nil : IsBody [] := ⟨[], [], rfl, derives_opt_nil, .stop⟩

/-- A triple comes before what follows it in the same block. -/
theorem IsBody.triple (ht : Derives (.rule .triplesSameSubjectPath) ls) (h : IsBody ms) :
    IsBody (ls ++ ".".toList :: ms) := by
  obtain ⟨block, others, rfl, hblock, hothers⟩ := h
  have hmore := ((derives_symbol (s := ".") (by decide)).pair hblock).opt
  exact ⟨ls ++ ".".toList :: block, others, by simp, .opt (.rule (ht.pair hmore)), hothers⟩

/-- Any other pattern comes before a new block. -/
theorem IsBody.notTriples (hp : Derives (.rule .graphPatternNotTriples) ls) (h : IsBody ms) :
    IsBody (ls ++ ms) := by
  obtain ⟨block, others, rfl, hblock, hothers⟩ := h
  have hfirst : Derives (.seq [.rule .graphPatternNotTriples, .opt (.symbol "."),
      .opt (.rule .triplesBlock)]) (ls ++ block) := by
    simpa using hp.cons (derives_opt_nil.cons (hblock.cons .nil))
  exact ⟨[], _, by simp, derives_opt_nil, hfirst.more hothers⟩

/-- The lexemes may stand where the pattern does. -/
structure Pattern.Fits (p : Pattern) (ls : List (List Char)) : Prop where
  subquery : p.isSubquery = true → Derives (.rule .subSelect) ls
  body : p.isSubquery = false → ∀ ms, IsBody ms → IsBody (ls ++ ms)
  group : p.isGroup = true → Derives (.rule .groupGraphPattern) ls

theorem fits_notTriples {p : Pattern} (hsubquery : p.isSubquery = false)
    (hgroup : p.isGroup = false) (h : Derives (.rule .graphPatternNotTriples) ls) : p.Fits ls where
  subquery hp := absurd hp (by simp [hsubquery])
  body _ _ hms := hms.notTriples h
  group hp := absurd hp (by simp [hgroup])

theorem derives_braced {e : Ebnf} (he : e ∈ [.rule .subSelect, .rule .groupGraphPatternSub])
    (h : Derives e ls) : Derives (.rule .groupGraphPattern) (bracedLexemes ls) := by
  have hclose := (derives_symbol (s := "\x7d") (by decide)).cons .nil
  exact .rule ((derives_symbol (s := "\x7b") (by decide)).cons ((Derives.choice he h).cons hclose))

variable {table : List Shorthand} {ps : List Pattern}

theorem isBody_lexemesIn (h : ∀ p ∈ ps, p.Fits (p.lexemes table))
    (hflat : ∀ p ∈ ps, p.isSubquery = false) : IsBody (lexemesIn table ps) := by
  induction ps with
  | nil => exact isBody_nil
  | cons p ps ih =>
    obtain ⟨hp, hps⟩ := List.forall_mem_cons.1 h
    obtain ⟨hflat, hflats⟩ := List.forall_mem_cons.1 hflat
    exact hp.body hflat _ (ih hps hflats)

/-- Patterns in braces. -/
theorem derives_bracedLexemes (hbody : grammarRules.body ps)
    (h : ∀ p ∈ ps, p.Fits (p.lexemes table)) :
    Derives (.rule .groupGraphPattern) (bracedLexemes (lexemesIn table ps)) := by
  by_cases hflat : ∀ p ∈ ps, p.isSubquery = false
  · exact derives_braced (by simp) (isBody_lexemesIn h hflat).derives
  · obtain ⟨p, rfl⟩ := hbody.resolve_left hflat
    have hp : p.isSubquery = true := by simpa using hflat
    have hselect := (h p (List.mem_singleton_self p)).subquery hp
    rw [lexemesIn, lexemesIn, List.append_nil]
    exact derives_braced (by simp) hselect

/-- The arm of a union, in braces of its own. -/
theorem derives_arm {arm : Pattern} :
    arm.Fits (arm.lexemes table) →
      Derives (.rule .groupGraphPattern)
        (match arm with
          | .group patterns => bracedLexemes (lexemesIn table patterns)
          | arm => bracedLexemes (arm.lexemes table)) := by
  intro h
  split
  · exact h.group rfl
  · have hbody : grammarRules.body [arm] := .inr ⟨arm, rfl⟩
    have hsingle := derives_bracedLexemes hbody (List.forall_mem_singleton.2 h)
    rwa [lexemesIn, lexemesIn, List.append_nil] at hsingle

theorem derives_arms {arms : List Pattern} (hne : arms ≠ [])
    (h : ∀ arm ∈ arms, arm.Fits (arm.lexemes table)) :
    Derives (.rule .groupOrUnionGraphPattern) (armLexemes table true arms) := by
  have hothers : ∀ arms : List Pattern, (∀ arm ∈ arms, arm.Fits (arm.lexemes table)) →
      Derives (.star (.seq [.word "UNION", .rule .groupGraphPattern]))
        (armLexemes table false arms) := by
    intro arms h
    induction arms with
    | nil => exact .stop
    | cons arm arms ih =>
      obtain ⟨harm, harms⟩ := List.forall_mem_cons.1 h
      have hunion := (derives_keyword (w := "UNION") (by decide)).pair
        (derives_arm harm)
      have hall := hunion.more (ih harms)
      unfold armLexemes
      rwa [List.append_assoc] at hall
  obtain ⟨arm, arms, rfl⟩ := List.exists_cons_of_ne_nil hne
  obtain ⟨harm, harms⟩ := List.forall_mem_cons.1 h
  unfold armLexemes
  exact .rule ((derives_arm harm).pair (hothers arms harms))

/-- Triples one after another. -/
theorem fits_triples (htable : LabelsFit table) {ts : List Triple}
    (h : ∀ t ∈ ts, t.Obeys grammarRules) :
    (Pattern.triples ts).Fits (ts.flatMap (Triple.lexemes table)) := by
  have hblock : ∀ ms, IsBody ms → IsBody (ts.flatMap (Triple.lexemes table) ++ ms) := by
    intro ms hms
    induction ts with
    | nil => exact hms
    | cons t ts ih =>
      obtain ⟨ht, hts⟩ := List.forall_mem_cons.1 h
      obtain ⟨ls, hls, heq⟩ := Triple.derives htable ht
      rw [List.flatMap_cons, heq]
      simpa using (ih hts).triple hls
  exact ⟨fun hp => absurd hp (by simp [Pattern.isSubquery]), fun _ => hblock,
    fun hp => absurd hp (by simp [Pattern.isGroup])⟩

end

/-! ### Queries -/

/-- The first part of a query. -/
theorem derives_selectClause (distinct : Bool) {projection : List Variable} (hne : projection ≠ [])
    (h : ∀ v ∈ projection, IsPlainName v.name) :
    Derives (.rule .selectClause) ("SELECT".toList ::
      ((if distinct then ["DISTINCT".toList] else []) ++ projection.map Variable.print)) := by
  have hdistinct : Derives (.opt (.choice [.word "DISTINCT", .word "REDUCED"]))
      (if distinct then ["DISTINCT".toList] else []) := by
    cases distinct with
    | false => exact derives_opt_nil
    | true => exact .opt (.choice (by simp) (derives_keyword (by decide)))
  have hvar : ∀ v ∈ projection, Derives Nonterminal.shown [v.print] :=
    fun v hv => .choice (by simp) (derives_variable (h v hv))
  have hvars : Derives (.plus Nonterminal.shown) (projection.map Variable.print) := by
    obtain ⟨v, vs, rfl⟩ := List.exists_cons_of_ne_nil hne
    obtain ⟨hv, hvs⟩ := List.forall_mem_cons.1 hvar
    rw [List.map_cons, List.map_eq_flatMap]
    exact hv.pair (derives_star hvs)
  have hshown : Derives (.choice [.plus Nonterminal.shown, .symbol "*"])
      (projection.map Variable.print) := .choice (by simp) hvars
  exact .rule ((derives_keyword (w := "SELECT") (by decide)).cons (hdistinct.pair hshown))

theorem derives_solutionModifier (limit : Option UInt64) :
    Derives (.rule .solutionModifier) (limitLexemes limit) := by
  have hlast : ∀ ls, Derives (.opt (.rule .limitOffsetClauses)) ls →
      Derives (.rule .solutionModifier) ls := by
    intro ls h
    rw [← List.append_nil ls]
    exact .rule (derives_opt_nil.cons (derives_opt_nil.cons (derives_opt_nil.cons (h.cons .nil))))
  cases limit with
  | none => exact hlast _ derives_opt_nil
  | some limit =>
    have hinteger : IsInteger (Nat.toDigits 10 limit.toNat) :=
      ⟨Nat.toDigits_ne_nil, fun ch hch => Nat.isDigit_of_mem_toDigits (by decide) (by decide) hch⟩
    have hlimit : Derives (.rule .limitClause) (limitLexemes (some limit)) :=
      .rule ((derives_keyword (w := "LIMIT") (by decide)).pair
        (.terminal ⟨.inl rfl, _, rfl, hinteger⟩))
    have hclauses : Derives (.seq [.rule .limitClause, .opt (.rule .offsetClause)])
        (limitLexemes (some limit)) := hlimit.opt_nil
    exact hlast _ (.opt (.rule (.choice (by simp) hclauses)))

/-- The three parts of a query. -/
theorem derives_select (distinct : Bool) {projection : List Variable} (hne : projection ≠ [])
    (h : ∀ v ∈ projection, IsPlainName v.name) {ls : List (List Char)} (limit : Option UInt64)
    (hgroup : Derives (.rule .groupGraphPattern) ls) :
    ∃ first body, Derives (.rule .selectClause) first ∧ Derives (.rule .whereClause) body ∧
      Derives (.rule .solutionModifier) (limitLexemes limit) ∧
      selectLexemes distinct projection ++ (ls ++ limitLexemes limit) =
        first ++ (body ++ limitLexemes limit) := by
  have hwhere := (derives_keyword (w := "WHERE") (by decide)).opt.pair hgroup
  refine ⟨_, _, derives_selectClause distinct hne h, .rule hwhere, derives_solutionModifier limit, ?_⟩
  rw [selectLexemes]
  simp only [List.cons_append, List.append_assoc, List.nil_append]

/-! ### Keywords before patterns and expressions -/

section

variable {table : List Shorthand} {ls : List (List Char)}

theorem derives_existence (negated : Bool) (h : Derives (.rule .groupGraphPattern) ls) :
    Derives (.rule .primaryExpression)
      ((if negated then ["NOT".toList, "EXISTS".toList] else ["EXISTS".toList]) ++ ls) := by
  have hexists := (derives_keyword (w := "EXISTS") (by decide)).pair h
  have hcall : ∀ {ms}, Derives (.rule .builtInCall) ms → Derives (.rule .primaryExpression) ms :=
    fun hms => .rule (.choice (by simp) hms)
  cases negated with
  | false =>
    have hfunc : Derives (.rule .existsFunc) _ := .rule hexists
    exact hcall (.rule (.choice (by simp) hfunc))
  | true =>
    have hfunc : Derives (.rule .notExistsFunc) _ :=
      .rule ((derives_keyword (w := "NOT") (by decide)).cons hexists)
    exact hcall (.rule (.choice (by simp) hfunc))

theorem derives_bind (h : Derives (.rule .expression) ls) {v : Variable}
    (hv : IsPlainName v.name) :
    Derives (.rule .bind)
      ("BIND".toList :: "(".toList :: (ls ++ ["AS".toList, v.print, ")".toList])) := by
  have hclose := (derives_symbol (s := ")") (by decide)).cons .nil
  have htarget := (derives_keyword (w := "AS") (by decide)).cons
    ((derives_variable hv).cons hclose)
  exact .rule ((derives_keyword (w := "BIND") (by decide)).cons
    ((derives_symbol (s := "(") (by decide)).cons (h.cons htarget)))

theorem derives_filter (h : Derives (.rule .expression) ls) :
    Derives (.rule .filter) ("FILTER".toList :: "(".toList :: (ls ++ [")".toList])) := by
  have hbracketed : Derives (.rule .brackettedExpression) _ := .rule h.parenthesized
  have hconstraint : Derives (.rule .constraint) _ := .rule (.choice (by simp) hbracketed)
  exact .rule ((derives_keyword (w := "FILTER") (by decide)).pair hconstraint)

theorem derives_service (htable : LabelsFit table) (endpoint : Iri) (silent : Bool)
    (h : Derives (.rule .groupGraphPattern) ls) :
    Derives (.rule .serviceGraphPattern) ("SERVICE".toList ::
      ((if silent then ["SILENT".toList] else []) ++ writeIri table endpoint :: ls)) := by
  have hsilent : Derives (.opt (.word "SILENT")) (if silent then ["SILENT".toList] else []) := by
    cases silent with
    | false => exact derives_opt_nil
    | true => exact (derives_keyword (by decide)).opt
  have hendpoint : Derives (.rule .varOrIri) [writeIri table endpoint] :=
    .rule (.choice (by simp) (derives_iri htable endpoint))
  exact .rule ((derives_keyword (w := "SERVICE") (by decide)).cons
    (hsilent.cons (hendpoint.pair h)))

end

/-! ### All patterns -/

mutual

theorem Expression.derives {table : List Shorthand} (htable : LabelsFit table) (nested : Bool) :
    (e : Expression) → e.Obeys grammarRules →
      Derives (.rule (if nested then .primaryExpression else .expression))
        (e.lexemes table nested)
  | .term t, h => by
    rw [Expression.lexemes]
    have hterm := Term.derives_operand htable h.1 h.2
    cases nested with
    | false => exact derives_expression_of_primary hterm
    | true => exact hterm
  | .binary operator left right, h => by
    have hoperation := derives_operation operator (left.derives htable true h.1)
      (right.derives htable true h.2)
    rw [Expression.lexemes]
    cases nested with
    | false => exact hoperation
    | true =>
      have hbracketed : Derives (.rule .brackettedExpression) _ := .rule hoperation.parenthesized
      exact .rule (.choice (by simp) hbracketed)
  | .existence negated patterns, h => by
    have hgroup := derives_bracedLexemes h.1 (fitsIn htable patterns h.2.2)
    rw [Expression.lexemes]
    cases nested with
    | false => exact derives_expression_of_primary (derives_existence negated hgroup)
    | true => exact derives_existence negated hgroup

theorem Pattern.fits {table : List Shorthand} (htable : LabelsFit table) :
    (p : Pattern) → p.Obeys grammarRules → p.Fits (p.lexemes table)
  | .triples ts, h => by
    rw [Pattern.lexemes]
    exact fits_triples htable h.2
  | .bind target value, h => by
    have hbind := derives_bind (v := target) (value.derives htable false h.2) h.1
    rw [Pattern.lexemes]
    exact fits_notTriples rfl rfl (.rule (.choice (by simp) hbind))
  | .filter condition, h => by
    have hfilter := derives_filter (condition.derives htable false h)
    rw [Pattern.lexemes]
    exact fits_notTriples rfl rfl (.rule (.choice (by simp) hfilter))
  | .union arms, h => by
    have harms := derives_arms h.1 (fitsIn htable arms h.2)
    rw [Pattern.lexemes]
    exact fits_notTriples rfl rfl (.rule (.choice (by simp) harms))
  | .minus ps, h => by
    have hgroup := derives_bracedLexemes h.1 (fitsIn htable ps h.2.2)
    have hminus : Derives (.rule .minusGraphPattern) _ :=
      .rule ((derives_keyword (w := "MINUS") (by decide)).pair hgroup)
    rw [Pattern.lexemes]
    exact fits_notTriples rfl rfl (.rule (.choice (by simp) hminus))
  | .group ps, h => by
    have hgroup := derives_bracedLexemes h.1 (fitsIn htable ps h.2)
    have hsingle : Derives (.rule .groupOrUnionGraphPattern) _ := .rule hgroup.star_nil
    have hpattern : Derives (.rule .graphPatternNotTriples) _ := .rule (.choice (by simp) hsingle)
    rw [Pattern.lexemes]
    exact ⟨fun hp => absurd hp (by simp [Pattern.isSubquery]),
      fun _ ms hms => hms.notTriples hpattern, fun _ => hgroup⟩
  | .service endpoint silent ps, h => by
    have hgroup := derives_bracedLexemes h.2.1 (fitsIn htable ps h.2.2.2)
    have hservice := derives_service htable endpoint silent hgroup
    rw [Pattern.lexemes]
    exact fits_notTriples rfl rfl (.rule (.choice (by simp) hservice))
  | .subquery distinct projection ps limit, h => by
    have hgroup := derives_bracedLexemes h.2.2.1 (fitsIn htable ps h.2.2.2.2)
    obtain ⟨first, body, hfirst, hbody, hlast, heq⟩ := derives_select distinct h.1 h.2.1 limit hgroup
    have hvalues : Derives (.rule .valuesClause) [] := .rule derives_opt_nil
    have hselect : Derives (.rule .subSelect) (first ++ (body ++ limitLexemes limit)) := by
      rw [← List.append_nil (limitLexemes limit)]
      exact .rule (hfirst.cons (hbody.cons (hlast.cons (hvalues.cons .nil))))
    rw [Pattern.lexemes, heq]
    exact ⟨fun _ => hselect, fun hp => absurd hp (by simp [Pattern.isSubquery]),
      fun hp => absurd hp (by simp [Pattern.isGroup])⟩

theorem fitsIn {table : List Shorthand} (htable : LabelsFit table) :
    (ps : List Pattern) → ObeyIn grammarRules ps → ∀ p ∈ ps, p.Fits (p.lexemes table)
  | [], _ => fun _ hp => absurd hp List.not_mem_nil
  | p :: ps, h => List.forall_mem_cons.2 ⟨p.fits htable h.1, fitsIn htable ps h.2⟩

end

/-! ## Queries -/

theorem derives_declarations {table : List Shorthand} (htable : LabelsFit table) :
    Derives (.star (.rule .prefixDecl)) (declarationLexemes table) := by
  refine derives_star fun s hs => ?_
  obtain ⟨hne, hlabel⟩ := htable s hs
  have hlabels : Derives (.terminal .prefixName) [s.label.toList ++ [':']] :=
    .terminal ⟨_, rfl, isPrefix_of_isWord hne hlabel⟩
  have hbase : Derives (.terminal .iriRef) [bracketedIri s.base.toList] :=
    .terminal (matches_bracketedIri _)
  exact .rule ((derives_keyword (w := "PREFIX") (by decide)).cons (hlabels.pair hbase))

/-- The lexemes of a query that obeys the rules are in the grammar. -/
theorem SelectQuery.isQuery {table : List Shorthand} (htable : LabelsFit table) (declare : Bool)
    {q : SelectQuery} (h : q.Obeys grammarRules) : IsQuery (q.lexemes table declare) := by
  have hdeclarations : Derives (.star (.rule .prefixDecl))
      (if declare then declarationLexemes table else []) := by
    cases declare with
    | false => exact .stop
    | true => exact derives_declarations htable
  have hgroup := derives_bracedLexemes h.2.2.1 (fitsIn htable q.patterns h.2.2.2.2)
  obtain ⟨first, body, hfirst, hbody, hlast, heq⟩ :=
    derives_select q.distinct h.1 h.2.1 q.limit hgroup
  have hselect : Derives (.rule .selectQuery) (q.toPattern.lexemes table) := by
    rw [SelectQuery.toPattern, Pattern.lexemes, heq]
    have hdatasets : Derives (.star (.rule .datasetClause)) [] := .stop
    exact .rule (hfirst.cons (hdatasets.cons (hbody.pair hlast)))
  exact hdeclarations.pair hselect

/-! ## Compiled queries -/

section

variable {a b : String}

theorem isPlain_append : IsPlain (a ++ b) ↔ IsPlain a ∧ IsPlain b := by
  rw [IsPlain, String.toList_append, List.forall_mem_append]
  rfl

theorem IsPlain.append_name (ha : IsPlain a) (hb : IsPlainName b) : IsPlainName (a ++ b) :=
  ⟨fun h => hb.1 (String.append_eq_empty_iff.1 h).2, isPlain_append.2 ⟨ha, hb.2⟩⟩

theorem IsPlainName.append (ha : IsPlainName a) (hb : IsPlain b) : IsPlainName (a ++ b) :=
  ⟨fun h => ha.1 (String.append_eq_empty_iff.1 h).1, isPlain_append.2 ⟨ha.2, hb⟩⟩

theorem isPlain_of_isWord (h : IsWord a) : IsPlain a := fun ch hch => by
  simp [Char.isAlphanum, h ch hch]

theorem isPlainName_position (i : Nat) : IsPlainName (toString i) := by
  have hdigits : (toString i).toList = Nat.toDigits 10 i := by
    rw [Nat.toString_eq_repr, Nat.toList_repr]
  refine ⟨fun h => ?_, fun ch hch => ?_⟩
  · rw [h] at hdigits
    exact Nat.toDigits_ne_nil hdigits.symm
  · rw [hdigits] at hch
    have hdigit := Nat.isDigit_of_mem_toDigits (by decide) (by decide) hch
    simp [Char.isAlphanum, hdigit]

theorem isPlain_scope (conditions : List Condition) (i : Nat) (c : Condition) :
    IsPlain (c.scope conditions i).suffix := by
  unfold Condition.scope
  dsimp only
  split
  · exact (isPlainName_position i).2
  · exact fun ch hch => absurd hch (by simp)

theorem grammarRules_admits {c : Condition} {suffix : String} (i : Nat) (hc : IsPlain c.property)
    (hsuffix : IsPlain suffix) : grammarRules.Admits c suffix i := by
  have hunderscored : ∀ word, IsPlain word → IsPlainName (word ++ "_" ++ toString i) := by
    intro word hword
    have hstart : IsPlain (word ++ "_") := isPlain_append.2 ⟨hword, by decide⟩
    exact hstart.append_name (isPlainName_position i)
  have hlabel : IsPlainName ("anyValue" ++ c.property) :=
    IsPlainName.append (by decide) hc
  exact {
    item := (by decide : IsPlainName "item")
    reference := (by decide : IsPlainName "reference")
    numbered _ h := (isPlain_of_isWord h).append_name (isPlainName_position i)
    underscored _ h := hunderscored _ (isPlain_of_isWord h)
    property _ := hunderscored _ hc
    label _ := by
      unfold anyValueNode
      split
      · exact hlabel
      · exact (hlabel.append (by decide)).append hsuffix
    iri _ := trivial
    operand _ h := h
    path _ _ h := h
    block _ _ := trivial
    body _ h := .inl h
    ungrouped _ _ := trivial }

theorem grammarRules_admitsFrame (s : Settings) : grammarRules.AdmitsFrame s where
  item := (by decide : IsPlainName "item")
  itemLabel := (by decide : IsPlainName "itemLabel")
  anyValue := (by decide : IsPlainName "anyValue")
  iri _ := trivial
  block _ := trivial
  projection v vs := List.cons_ne_nil v vs
  language := .inr ⟨_, rfl⟩
  labels items := ⟨.inl (by simp [withLabels, Pattern.isSubquery]), .inr ⟨_, rfl⟩⟩
  ungrouped _ _ := trivial

end

namespace Query

variable {s : Settings} {q : Query} {built : Condition × Nat → List Pattern} {answer : SelectQuery}

/-- The patterns of an element obey the rules, and none is a query of its own. -/
theorem flat_elementPatterns (hplain : ∀ c ∈ q.conditions, IsPlain c.property)
    (h : q.Builds s built) {e : Element (Condition × Nat)} (he : e ∈ q.tree) :
    Flat grammarRules (e.map built).patterns := by
  have hmember : ∀ m ∈ e.members, Flat grammarRules (built m) := by
    intro m hm
    have hmem : m ∈ q.conditions.zipIdx := mem_zipIdx_of_mem_tree he hm
    have hproperty := hplain m.1 (List.fst_mem_of_mem_zipIdx hmem)
    exact Condition.flat_patterns (grammarRules_admits m.2 hproperty (isPlain_scope _ _ _)) rfl
      (h m hmem)
  cases e with
  | single m => exact hmember m (List.mem_singleton_self m)
  | group ms =>
    have hne : ms.map (fun m => Pattern.group (built m)) ≠ [] := by
      simpa [Element.members] using members_ne_nil_of_mem_tree he
    refine ⟨(obeyIn_elementPatterns (.group ms)).2 ⟨hne, fun m hm => ?_⟩, ?_⟩
    · exact ⟨.inl (hmember m hm).2, (hmember m hm).1⟩
    · simp [Element.map, Element.patterns, Pattern.isSubquery]

theorem obeys_grammarRules (hplain : ∀ c ∈ q.conditions, IsPlain c.property)
    (h : q.compile s = .ok answer) : answer.Obeys grammarRules := by
  obtain ⟨built, hbuilt, hobeys⟩ := obeys_compile_iff (grammarRules_admitsFrame s) h
  have helements := fun e he => flat_elementPatterns hplain hbuilt (e := e) he
  have hflat : ∀ p ∈ q.body built, p.isSubquery = false := by
    rw [body, List.forall_mem_flatMap]
    exact fun e he => (helements e he).2
  have hflat' : ∀ p ∈ withAnyItem s.namespaces (q.body built), p.isSubquery = false := by
    unfold withAnyItem
    split
    · exact List.forall_mem_cons.2 ⟨rfl, hflat⟩
    · exact hflat
  exact hobeys.2 ⟨.inl hflat', trivial, fun e he => (helements e he).1⟩

/-- **A compiled query is printed as a SPARQL query.**  Whatever the namespaces are and whatever
the texts in its conditions, the text of a query on properties with plain ids is read as lexemes
that the grammar derives from declarations of prefixes and a `SELECT` query. -/
theorem render_grammatical (declare : Bool) (hplain : ∀ c ∈ q.conditions, IsPlain c.property)
    (h : q.compile s = .ok answer) :
    ∃ lexemes, Scans (answer.render s.namespaces.shorthands declare).toList lexemes ∧
      IsQuery lexemes := by
  have hobeys := obeys_grammarRules hplain h
  have htable := labelsFit_shorthands s.namespaces
  rw [SelectQuery.render, String.toList_ofList]
  exact ⟨_, SelectQuery.scans htable grammarRules_scannable declare hobeys,
    SelectQuery.isQuery htable declare hobeys⟩

/-- A website, whose address has a blank in it, or a title of any kind. -/
def websiteOrTitle : Query where
  conditions :=
    [ ⟨"P856", .url, .text "http://example.org/a b", .matching, .absent, false, true, none⟩,
      ⟨"P1476", .unsupported "monolingualtext", .text "", .regardless, .regardless, false, false,
        some .or⟩ ]
  limit := some 10
  omitLabels := false

/-- With its declarations the query is grammatical. -/
theorem render_grammatical_websiteOrTitle :
    ∃ answer, websiteOrTitle.compile {} = .ok answer ∧
      (∀ c ∈ websiteOrTitle.conditions, IsPlain c.property) ∧
      ∃ lexemes, Scans (answer.render ({} : Settings).namespaces.shorthands true).toList lexemes ∧
        IsQuery lexemes := by
  obtain ⟨answer, hanswer⟩ : ∃ answer, websiteOrTitle.compile {} = .ok answer := ⟨_, rfl⟩
  have hplain : ∀ c ∈ websiteOrTitle.conditions, IsPlain c.property := by decide
  exact ⟨answer, hanswer, hplain, render_grammatical true hplain hanswer⟩

end Query

end WikibaseQuery

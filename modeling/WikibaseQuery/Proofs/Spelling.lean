import WikibaseQuery.Proofs.Lexemes

/-!
# Reading terms and paths back

Canonical queries are those that the printed text tells from all others.  This file says what they
are, and shows that their terms and paths are told by their lexemes, whatever comes after.

* `canonicalRules` — what makes a query canonical;
* `writeIri_inj` — IRIs are told apart although the beginnings of shorthands overlap;
* `escapeLiteral_injective` — so are texts, which may contain any delimiter;
* `Term.lexemes_inj`, `Path.readable` — terms and paths.
-/

namespace WikibaseQuery

/-! ## Canonical queries -/

/-- Whether the pattern is a basic graph pattern. -/
def Pattern.isTriples : Pattern → Bool
  | .triples _ => true
  | _ => false

/-- No basic graph pattern comes right after another one. -/
def Apart (ps : List Pattern) : Prop :=
  ps.IsChain fun p p' => ¬ (p.isTriples = true ∧ p'.isTriples = true)

/-- The rules of canonical queries.  Names need no care and IRIs no escape; an operator of paths has
the operands it needs, and a single operand is put in sequence only; no basic graph pattern is empty
or comes right after another one; a union has two arms at least, all of them groups; and a query
within another one is all there is in a group. -/
def canonicalRules : Rules where
  var v := IsPlainName v.name
  label := IsPlainName
  iri i := ∀ ch ∈ i.text.toList, isForbiddenInIri ch = false
  path operator items := operator.HasOperands items ∧
    ∀ item, items = [item] → operator.isBinary = true → operator = .sequence
  block ts := ts ≠ []
  arms as := 2 ≤ as.length ∧ ∀ arm ∈ as, arm.isGroup = true
  body ps := Apart ps ∧ ∀ p ∈ ps, p.isSubquery = true → ps = [p]
  ungrouped ps := ∀ p ∈ ps, p.isSubquery = false

theorem canonicalRules_scannable : canonicalRules.Scannable where
  var _ h := h
  label _ h := h
  path _ _ h := h.1

/-! ## Texts -/

/-- What a character after a backslash stands for. -/
def unescapedChar : Char → Char
  | 'n' => '\n'
  | 'r' => '\r'
  | 't' => '\t'
  | ch => ch

/-- The text of a literal from what stands between its quotation marks. -/
def unescapeLiteral : List Char → List Char
  | [] => []
  | [ch] => [ch]
  | first :: second :: cs =>
    if first = '\\' then unescapedChar second :: unescapeLiteral cs
    else first :: unescapeLiteral (second :: cs)

theorem unescapeLiteral_append (ch : Char) (cs : List Char) :
    unescapeLiteral (escapedLiteralChar ch ++ cs) = ch :: unescapeLiteral cs := by
  unfold escapedLiteralChar
  split
  case h_6 hslash _ _ _ _ =>
    cases cs with
    | nil => rfl
    | cons second cs => exact if_neg hslash
  all_goals exact if_pos rfl

theorem unescapeLiteral_escapeLiteral (cs : List Char) :
    unescapeLiteral (escapeLiteral cs) = cs := by
  induction cs with
  | nil => rfl
  | cons ch cs ih =>
    rw [escapeLiteral, List.flatMap_cons, unescapeLiteral_append]
    exact congrArg _ ih

theorem escapeLiteral_injective : Function.Injective escapeLiteral :=
  Function.LeftInverse.injective unescapeLiteral_escapeLiteral

/-! ## IRIs -/

/-- A clean IRI is written as it is. -/
theorem escapeIri_eq_self {cs : List Char} (h : ∀ ch ∈ cs, isForbiddenInIri ch = false) :
    escapeIri cs = cs := by
  induction cs with
  | nil => rfl
  | cons ch cs ih =>
    obtain ⟨hch, hcs⟩ := List.forall_mem_cons.1 h
    rw [escapeIri, List.flatMap_cons, hch]
    exact congrArg _ (ih hcs)

/-- The label and the rest are told apart by the colon. -/
theorem label_append_inj {label label' : String} {name name' : List Char} (hl : IsWord label)
    (hl' : IsWord label')
    (h : label.toList ++ ':' :: name = label'.toList ++ ':' :: name') :
    label = label' ∧ name = name' := by
  have hcut : ∀ {label : String} (name : List Char), IsWord label →
      (label.toList ++ ':' :: name).takeWhile Char.isAlpha = label.toList := by
    intro label name hword
    rw [List.takeWhile_append_of_pos hword]
    simp
  have hlabels := congrArg (List.takeWhile Char.isAlpha) h
  rw [hcut name hl, hcut name' hl'] at hlabels
  obtain rfl := String.toList_inj.1 hlabels
  exact ⟨rfl, List.cons.inj (List.append_cancel_left h) |>.2⟩

section

variable {table : List Shorthand} (htable : LabelsFit table)
include htable

/-- An IRI begins with an angle bracket or with a letter. -/
theorem writeIri_head (i : Iri) :
    ∃ ch cs, writeIri table i = ch :: cs ∧ (ch = '<' ∨ ch.isAlpha = true) := by
  rcases writeIri_cases table i with hfull | ⟨s, hs, name, -, -, hshort⟩
  · exact ⟨'<', _, hfull, .inl rfl⟩
  · obtain ⟨hne, hword⟩ := htable s hs
    obtain ⟨ch, cs, hcons⟩ := List.exists_cons_of_ne_nil (l := s.label.toList) (by simpa using hne)
    rw [hshort, hcons]
    exact ⟨ch, _, rfl, .inr (hword ch (by rw [hcons]; exact List.mem_cons_self ..))⟩

theorem ne_writeIri {ch : Char} (hch : ch ∈ ['?', '_', '"']) (cs : List Char) (i : Iri) :
    ch :: cs ≠ writeIri table i := by
  intro heq
  obtain ⟨first, others, hcons, hfirst⟩ := writeIri_head htable i
  obtain ⟨rfl, -⟩ := List.cons.inj (heq.trans hcons)
  have hnone : ∀ ch ∈ ['?', '_', '"'], ¬ (ch = '<' ∨ ch.isAlpha = true) := by decide
  exact hnone ch hch hfirst

/-- An IRI in full is told from a shortened one by its bracket. -/
theorem bracketedIri_ne_shortened {s : Shorthand} (hs : s ∈ table) (cs name : List Char) :
    bracketedIri cs ≠ s.label.toList ++ ':' :: name := by
  intro heq
  obtain ⟨hne, hword⟩ := htable s hs
  obtain ⟨ch, others, hcons⟩ := List.exists_cons_of_ne_nil (l := s.label.toList) (by simpa using hne)
  rw [hcons] at heq
  obtain ⟨rfl, -⟩ := List.cons.inj heq
  exact absurd (hword _ (by rw [hcons]; exact List.mem_cons_self ..)) (by decide)

/-- **Clean IRIs are told apart by how they are written**, whichever beginnings overlap. -/
theorem writeIri_inj (hlabels : (table.map Shorthand.label).Nodup) {i i' : Iri}
    (hi : ∀ ch ∈ i.text.toList, isForbiddenInIri ch = false)
    (hi' : ∀ ch ∈ i'.text.toList, isForbiddenInIri ch = false)
    (h : writeIri table i = writeIri table i') : i = i' := by
  have htexts : i.text.toList = i'.text.toList → i = i' := fun heq =>
    congrArg Iri.mk (String.toList_inj.1 heq)
  rcases writeIri_cases table i with hfull | ⟨s, hs, name, -, htext, hshort⟩
  · rcases writeIri_cases table i' with hfull' | ⟨s', hs', name', -, -, hshort'⟩
    · rw [hfull, hfull', bracketedIri, bracketedIri, escapeIri_eq_self hi, escapeIri_eq_self hi'] at h
      exact htexts (List.append_cancel_right (List.cons.inj h).2)
    · rw [hfull, hshort'] at h
      exact absurd h (bracketedIri_ne_shortened htable hs' _ _)
  · rcases writeIri_cases table i' with hfull' | ⟨s', hs', name', -, htext', hshort'⟩
    · rw [hshort, hfull'] at h
      exact absurd h.symm (bracketedIri_ne_shortened htable hs _ _)
    · rw [hshort, hshort'] at h
      obtain ⟨hlabel, rfl⟩ := label_append_inj (htable s hs).2 (htable s' hs').2 h
      obtain rfl := List.inj_on_of_nodup_map hlabels hs hs' hlabel
      exact htexts (htext.trans htext'.symm)

end

/-! ## First lexemes -/

/-- The lexemes that are the same in all queries. -/
def fixedLexemes : List (List Char) := (keywords ++ symbols).map String.toList

/-- The lexemes begin with one that differs from query to query. -/
def Opens (ls : List (List Char)) : Prop := ∃ l ms, ls = l :: ms ∧ l ∉ fixedLexemes

theorem Opens.head_ne {ls ms : List (List Char)} (h : Opens ls) {l : List Char}
    (hl : l ∈ fixedLexemes) : ls ≠ l :: ms := by
  obtain ⟨first, others, rfl, hfirst⟩ := h
  intro heq
  obtain ⟨rfl, -⟩ := List.cons.inj heq
  exact hfirst hl

theorem writeIri_notMem_fixedLexemes (table : List Shorthand) (i : Iri) :
    writeIri table i ∉ fixedLexemes := by
  have hbrackets : ∀ l ∈ fixedLexemes, l.head? = some '<' → l.getLast? ≠ some '>' := by decide
  have hcolon : ∀ l ∈ fixedLexemes, ':' ∉ l := by decide
  intro hmem
  rcases writeIri_cases table i with hfull | ⟨s, -, name, -, -, hshort⟩
  · rw [hfull] at hmem
    exact hbrackets _ hmem rfl (List.getLast?_concat (l := '<' :: escapeIri i.text.toList))
  · rw [hshort] at hmem
    exact hcolon _ hmem (by simp)

theorem print_notMem_fixedLexemes {v : Variable} (h : IsPlainName v.name) :
    v.print ∉ fixedLexemes := by
  have hmark : ∀ l ∈ fixedLexemes, l.head? = some '?' → l = ['?'] := by decide
  refine fun hmem => h.1 ?_
  simpa [Variable.print] using hmark _ hmem rfl

/-- A term does not begin with a fixed lexeme. -/
theorem Term.opens (table : List Shorthand) {t : Term} (h : t.Obeys canonicalRules)
    (rest : List (List Char)) : Opens (t.lexemes table ++ rest) := by
  have hcolon : ∀ l ∈ fixedLexemes, ':' ∉ l := by decide
  have hquote : ∀ l ∈ fixedLexemes, l.head? ≠ some '"' := by decide
  cases t with
  | var v => exact ⟨_, _, rfl, print_notMem_fixedLexemes h⟩
  | iri i => exact ⟨_, _, rfl, writeIri_notMem_fixedLexemes table i⟩
  | blank label => exact ⟨_, _, rfl, fun hmem => hcolon _ hmem (by simp)⟩
  | literal l => exact ⟨_, _, rfl, fun hmem => hquote _ hmem rfl⟩

/-! ## Terms and paths -/

section

variable {table : List Shorthand} (htable : LabelsFit table)
  (hlabels : (table.map Shorthand.label).Nodup) {r r' : List (List Char)}
include htable hlabels

theorem Literal.lexemes_inj {l l' : Literal} (hl : (Term.literal l).Obeys canonicalRules)
    (hl' : (Term.literal l').Obeys canonicalRules) (hr : r.head? ≠ some "^^".toList)
    (hr' : r'.head? ≠ some "^^".toList) (h : l.lexemes table ++ r = l'.lexemes table ++ r') :
    l = l' ∧ r = r' := by
  obtain ⟨text, datatype⟩ := l
  obtain ⟨text', datatype'⟩ := l'
  obtain ⟨hquoted, hothers⟩ := List.cons.inj h
  have htext : text.toList = text'.toList :=
    escapeLiteral_injective (List.append_cancel_right (List.cons.inj hquoted).2)
  obtain rfl := String.toList_inj.1 htext
  cases datatype with
  | none =>
    cases datatype' with
    | none => exact ⟨rfl, hothers⟩
    | some i' => exact absurd (congrArg List.head? hothers) hr
  | some i =>
    cases datatype' with
    | none => exact absurd (congrArg List.head? hothers.symm) hr'
    | some i' =>
      obtain ⟨hiri, hrest⟩ := List.cons.inj (List.cons.inj hothers).2
      obtain rfl := writeIri_inj htable hlabels (hl i rfl) (hl' i' rfl) hiri
      exact ⟨rfl, hrest⟩

/-- Terms are read back, unless a datatype goes on after them. -/
theorem Term.lexemes_inj {t t' : Term} (ht : t.Obeys canonicalRules)
    (ht' : t'.Obeys canonicalRules) (hr : r.head? ≠ some "^^".toList)
    (hr' : r'.head? ≠ some "^^".toList) (h : t.lexemes table ++ r = t'.lexemes table ++ r') :
    t = t' ∧ r = r' := by
  have hiri : ∀ ch ∈ ['?', '_', '"'], ∀ (cs : List Char) (i : Iri), ch :: cs ≠ writeIri table i :=
    fun ch hch cs i => ne_writeIri htable hch cs i
  cases t <;> cases t'
  case var.var v v' =>
    obtain ⟨hname, hrest⟩ := List.cons.inj h
    exact ⟨congrArg (Term.var ⟨·⟩) (String.toList_inj.1 (List.cons.inj hname).2), hrest⟩
  case iri.iri i i' =>
    obtain ⟨hiri, hrest⟩ := List.cons.inj h
    exact ⟨congrArg Term.iri (writeIri_inj htable hlabels ht ht' hiri), hrest⟩
  case blank.blank label label' =>
    obtain ⟨hlabel, hrest⟩ := List.cons.inj h
    have htext := (List.cons.inj (List.cons.inj hlabel).2).2
    exact ⟨congrArg Term.blank (String.toList_inj.1 htext), hrest⟩
  case literal.literal l l' =>
    obtain ⟨rfl, hrest⟩ := Literal.lexemes_inj htable hlabels ht ht' hr hr' h
    exact ⟨rfl, hrest⟩
  -- The other pairs differ in their first character.
  all_goals
    have hfirst := (List.cons.inj h).1
    first
      | exact absurd hfirst (hiri _ (by decide) _ _)
      | exact absurd hfirst.symm (hiri _ (by decide) _ _)
      | exact absurd (List.cons.inj hfirst).1 (by decide)

end

/-! ### Paths -/

/-- The path can be read back, whatever comes after it. -/
def Path.Readable (table : List Shorthand) (path : Path) : Prop :=
  ∀ (path' : Path) (r r' : List (List Char)), path'.Obeys canonicalRules →
    path.lexemes table ++ r = path'.lexemes table ++ r' → path = path' ∧ r = r'

theorem PathOperator.HasOperands.ne_nil {operator : PathOperator} {items : List Path}
    (h : operator.HasOperands items) : items ≠ [] := by
  unfold HasOperands at h
  split at h
  · exact h
  · obtain ⟨item, rfl⟩ := h
    exact List.cons_ne_nil item []

/-- What comes after the first operand. -/
def operandTail (table : List Shorthand) : PathOperator → List Path → List (List Char)
  | .sequence, paths => followingLexemes table ["/".toList] paths
  | .alternative, paths => followingLexemes table ["|".toList] paths
  | .inverse, _ => []
  | .zeroOrMore, _ => ["*".toList]
  | .oneOrMore, _ => ["+".toList]
  | .zeroOrOne, _ => ["?".toList]

theorem compound_lexemes (table : List Shorthand) {operator : PathOperator} {path : Path}
    {paths : List Path} (h : operator.HasOperands (path :: paths)) :
    (Path.compound operator (path :: paths)).lexemes table =
      "(".toList :: ((if operator = .inverse then ["^".toList] else []) ++
        (path.lexemes table ++ (operandTail table operator paths ++ [")".toList]))) := by
  cases operator with
  | sequence | alternative =>
    simp [Path.lexemes, joinedLexemes, operandTail, PathOperator.symbol]
  | _ =>
    obtain ⟨item, hitem⟩ := h
    obtain ⟨rfl, rfl⟩ := List.cons.inj hitem
    simp [Path.lexemes, joinedLexemes, followingLexemes, operandTail, PathOperator.symbol]

/-- A path begins with a parenthesis or with an IRI. -/
theorem Path.head_ne {table : List Shorthand} {l : List Char} (hl : l ∈ fixedLexemes)
    (hopen : l ≠ "(".toList) (path : Path) (rest ls : List (List Char)) :
    path.lexemes table ++ rest ≠ l :: ls := by
  intro heq
  cases path with
  | iri i =>
    obtain ⟨rfl, -⟩ := List.cons.inj heq
    exact writeIri_notMem_fixedLexemes table i hl
  | compound operator items =>
    refine hopen ?_
    cases operator <;> exact (List.cons.inj heq).1.symm

theorem Path.head_ne_open {table : List Shorthand} (i : Iri) (rest ls : List (List Char)) :
    (Path.iri i).lexemes table ++ rest ≠ "(".toList :: ls := by
  intro heq
  have hmem := writeIri_notMem_fixedLexemes table i
  rw [(List.cons.inj heq).1] at hmem
  exact hmem (by decide)

/-- The lexeme after the first operand, which may be the only one. -/
def PathOperator.next (operator : PathOperator) (single : Bool) : List Char :=
  if operator = .inverse ∨ operator.isBinary = true ∧ single = true then ")".toList
  else [operator.symbol]

theorem operandTail_head (table : List Shorthand) (operator : PathOperator) (paths : List Path)
    (r : List (List Char)) :
    ∃ ls, operandTail table operator paths ++ ")".toList :: r =
      operator.next paths.isEmpty :: ls := by
  cases operator <;> cases paths <;> exact ⟨_, rfl⟩

/-- The operator is told by whether it stands first and by what comes after the first operand. -/
theorem operator_eq_of_next {operator operator' : PathOperator} {single single' : Bool}
    (hinverse : operator = .inverse ↔ operator' = .inverse)
    (h : single = true → operator.isBinary = true → operator = .sequence)
    (h' : single' = true → operator'.isBinary = true → operator' = .sequence)
    (hnext : operator.next single = operator'.next single') : operator = operator' := by
  let all : List PathOperator :=
    [.sequence, .alternative, .inverse, .zeroOrMore, .oneOrMore, .zeroOrOne]
  have hmem : ∀ operator, operator ∈ all := fun operator => by cases operator <;> decide
  have hall : ∀ a ∈ all, ∀ b ∈ all, ∀ single single' : Bool, (a = .inverse ↔ b = .inverse) →
      (single = true → a.isBinary = true → a = .sequence) →
      (single' = true → b.isBinary = true → b = .sequence) →
      a.next single = b.next single' → a = b := by decide
  exact hall _ (hmem _) _ (hmem _) _ _ hinverse h h' hnext

section

variable {table : List Shorthand}

theorem followingLexemes_inj {s : String} (hs : s ≠ ")") {paths paths' : List Path}
    (h : ∀ path ∈ paths, path.Readable table) (h' : PathsObey canonicalRules paths')
    {r r' : List (List Char)}
    (heq : followingLexemes table [s.toList] paths ++ ")".toList :: r =
      followingLexemes table [s.toList] paths' ++ ")".toList :: r') :
    paths = paths' ∧ r = r' := by
  have hne : s.toList ≠ ")".toList := fun heq => hs (String.toList_inj.1 heq)
  induction paths generalizing paths' with
  | nil =>
    cases paths' with
    | nil => exact ⟨rfl, (List.cons.inj heq).2⟩
    | cons path' paths' => exact absurd (List.cons.inj heq).1.symm hne
  | cons path paths ih =>
    obtain ⟨hpath, hpaths⟩ := List.forall_mem_cons.1 h
    cases paths' with
    | nil => exact absurd (List.cons.inj heq).1 hne
    | cons path' paths' =>
      have hlists : path.lexemes table ++ (followingLexemes table [s.toList] paths ++
          ")".toList :: r) = path'.lexemes table ++ (followingLexemes table [s.toList] paths' ++
            ")".toList :: r') := by
        simpa [followingLexemes] using heq
      obtain ⟨rfl, hfollowing⟩ := hpath _ _ _ h'.1 hlists
      obtain ⟨rfl, hrest⟩ := ih hpaths h'.2 hfollowing
      exact ⟨rfl, hrest⟩

/-- What comes after the first operand tells the other ones. -/
theorem operandTail_inj {operator : PathOperator} {path : Path} {paths paths' : List Path}
    (hone : operator.HasOperands (path :: paths)) (hone' : operator.HasOperands (path :: paths'))
    (h : ∀ path ∈ paths, path.Readable table) (h' : PathsObey canonicalRules paths')
    {r r' : List (List Char)}
    (heq : operandTail table operator paths ++ ")".toList :: r =
      operandTail table operator paths' ++ ")".toList :: r') :
    paths = paths' ∧ r = r' := by
  cases operator with
  | sequence => exact followingLexemes_inj (s := "/") (by decide) h h' heq
  | alternative => exact followingLexemes_inj (s := "|") (by decide) h h' heq
  | _ =>
    obtain ⟨item, hitem⟩ := hone
    obtain ⟨item', hitem'⟩ := hone'
    obtain rfl := (List.cons.inj hitem).2
    obtain rfl := (List.cons.inj hitem').2
    exact ⟨rfl, (List.cons.inj (List.append_cancel_left heq)).2⟩

/-- Only the inverse operator stands before its operand. -/
theorem eq_inverse_of_lexemes {operator operator' : PathOperator} {path path' : Path}
    {ls ls' : List (List Char)}
    (heq : (if operator = .inverse then ["^".toList] else []) ++ (path.lexemes table ++ ls) =
      (if operator' = .inverse then ["^".toList] else []) ++ (path'.lexemes table ++ ls'))
    (h : operator = .inverse) : operator' = .inverse := by
  by_contra hne
  rw [if_pos h, if_neg hne] at heq
  exact Path.head_ne (by decide) (by decide) path' ls' _ heq.symm

/-- An operator with its operands is read back if the operands are. -/
theorem compound_readable {operator : PathOperator} {path : Path} {paths : List Path}
    (h : (Path.compound operator (path :: paths)).Obeys canonicalRules)
    (hpath : path.Readable table) (hpaths : ∀ path ∈ paths, path.Readable table) :
    (Path.compound operator (path :: paths)).Readable table := by
  intro other r r' h' heq
  rw [compound_lexemes table h.1.1] at heq
  cases other with
  | iri i => exact absurd heq.symm (Path.head_ne_open i r' _)
  | compound operator' items' =>
    obtain ⟨path', paths', rfl⟩ := List.exists_cons_of_ne_nil h'.1.1.ne_nil
    rw [compound_lexemes table h'.1.1] at heq
    simp only [List.cons_append, List.append_assoc, List.nil_append, List.cons.injEq,
      true_and] at heq
    have hinverse : operator = .inverse ↔ operator' = .inverse :=
      ⟨eq_inverse_of_lexemes heq, eq_inverse_of_lexemes heq.symm⟩
    simp only [hinverse] at heq
    obtain ⟨rfl, htail⟩ := hpath _ _ _ h'.2.1 (List.append_cancel_left heq)
    obtain ⟨ls, hls⟩ := operandTail_head table operator paths r
    obtain ⟨ls', hls'⟩ := operandTail_head table operator' paths' r'
    have hnext := (List.cons.inj (hls.symm.trans (htail.trans hls'))).1
    have hsingle : ∀ {ps : List Path}, ps.isEmpty = true → path :: ps = [path] :=
      fun hps => by rw [List.isEmpty_iff.1 hps]
    obtain rfl := operator_eq_of_next hinverse (fun hps => h.1.2 _ (hsingle hps))
      (fun hps => h'.1.2 _ (hsingle hps)) hnext
    obtain ⟨rfl, hrest⟩ := operandTail_inj h.1.1 h'.1.1 hpaths h'.2.2 htail
    exact ⟨rfl, hrest⟩

end

mutual

/-- A canonical path is read back. -/
theorem Path.readable {table : List Shorthand} (htable : LabelsFit table)
    (hlabels : (table.map Shorthand.label).Nodup) :
    (path : Path) → path.Obeys canonicalRules → path.Readable table
  | .iri i, h => by
    intro other r r' h' heq
    cases other with
    | iri i' =>
      obtain ⟨hiri, hrest⟩ := List.cons.inj heq
      exact ⟨congrArg Path.iri (writeIri_inj htable hlabels h h' hiri), hrest⟩
    | compound operator' items' =>
      obtain ⟨path', paths', rfl⟩ := List.exists_cons_of_ne_nil h'.1.1.ne_nil
      rw [compound_lexemes table h'.1.1] at heq
      exact absurd heq (Path.head_ne_open i r _)
  | .compound operator items, h => by
    have hitems := pathsReadable htable hlabels items h.2
    obtain ⟨path, paths, rfl⟩ := List.exists_cons_of_ne_nil h.1.1.ne_nil
    obtain ⟨hpath, hpaths⟩ := List.forall_mem_cons.1 hitems
    exact compound_readable h hpath hpaths

theorem pathsReadable {table : List Shorthand} (htable : LabelsFit table)
    (hlabels : (table.map Shorthand.label).Nodup) :
    (paths : List Path) → PathsObey canonicalRules paths →
      ∀ path ∈ paths, path.Readable table
  | [], _ => fun _ hpath => absurd hpath List.not_mem_nil
  | path :: paths, h => List.forall_mem_cons.2
    ⟨path.readable htable hlabels h.1, pathsReadable htable hlabels paths h.2⟩

end

end WikibaseQuery

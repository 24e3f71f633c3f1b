import WikibaseQuery.Proofs.Scanning
import WikibaseQuery.Proofs.Spelling

/-!
# Printed queries can be read back

The lexemes of a query are read from the front: each expression and pattern is told by the lexeme it
begins with, and where it ends is told by its parts and the lexeme after it.  So two canonical
queries with the same text are the same query.

* `Begins.unique` — the lexeme at the front leaves one kind of expression or pattern;
* `lexemesIn_inj`, `armLexemes_inj` — patterns in braces, and the arms of a union;
* `Expression.readable`, `Pattern.readable` — every part of a canonical query is read back;
* `SelectQuery.eq_of_render_eq` — printing loses nothing.
-/

namespace WikibaseQuery

/-! ## First lexemes -/

/-- The lexemes begin with the fixed one, or with none of the fixed ones. -/
def Begins (sign : Option (List Char)) (ls : List (List Char)) : Prop :=
  match sign with
  | some l => l ∈ fixedLexemes ∧ ∃ ms, ls = l :: ms
  | none => Opens ls

theorem Begins.unique {sign sign' : Option (List Char)} {ls : List (List Char)}
    (h : Begins sign ls) (h' : Begins sign' ls) : sign = sign' := by
  cases sign with
  | none =>
    cases sign' with
    | none => rfl
    | some l' =>
      obtain ⟨hl', ms, heq⟩ := h'
      exact absurd heq (h.head_ne hl')
  | some l =>
    obtain ⟨hl, ms, heq⟩ := h
    cases sign' with
    | none => exact absurd heq (h'.head_ne hl)
    | some l' =>
      obtain ⟨-, ms', heq'⟩ := h'
      rw [(List.cons.inj (heq.symm.trans heq')).1]

/-- The fixed lexeme that the expression begins with inside another one, if it is no term. -/
def Expression.sign : Expression → Option (List Char)
  | .term _ => none
  | .binary _ _ _ => some "(".toList
  | .existence negated _ => some (if negated then "NOT".toList else "EXISTS".toList)

/-- The fixed lexeme that the pattern begins with, if it is no basic graph pattern. -/
def Pattern.sign : Pattern → Option (List Char)
  | .triples _ => none
  | .bind _ _ => some "BIND".toList
  | .filter _ => some "FILTER".toList
  | .union _ | .group _ => some "\x7b".toList
  | .minus _ => some "MINUS".toList
  | .service _ _ _ => some "SERVICE".toList
  | .subquery _ _ _ _ => some "SELECT".toList

theorem Expression.begins (table : List Shorthand) {e : Expression} (h : e.Obeys canonicalRules)
    (rest : List (List Char)) : Begins e.sign (e.lexemes table true ++ rest) := by
  cases e with
  | term t =>
    rw [Expression.lexemes]
    exact t.opens table h.1 rest
  | binary operator left right => exact ⟨by decide, _, rfl⟩
  | existence negated patterns =>
    rw [Expression.lexemes]
    cases negated <;> exact ⟨by decide, _, rfl⟩

/-- An arm that is a group needs no more braces. -/
theorem armLexemes_cons (table : List Shorthand) (first : Bool) {arm : Pattern}
    (h : arm.isGroup = true) (arms : List Pattern) :
    armLexemes table first (arm :: arms) =
      (if first then [] else ["UNION".toList]) ++
        (arm.lexemes table ++ armLexemes table false arms) := by
  cases arm with
  | group patterns => rw [armLexemes, Pattern.lexemes]
  | _ => exact absurd h (by simp [Pattern.isGroup])

theorem union_lexemes (table : List Shorthand) {arm : Pattern} (h : arm.isGroup = true)
    (arms : List Pattern) : (Pattern.union (arm :: arms)).lexemes table =
      arm.lexemes table ++ armLexemes table false arms := by
  rw [Pattern.lexemes, armLexemes_cons table true h, if_pos rfl, List.nil_append]

/-- A union has a first arm, and others. -/
theorem exists_arms {arms : List Pattern} (h : canonicalRules.arms arms) :
    ∃ arm others, arms = arm :: others ∧ others ≠ [] := by
  match arms with
  | [] | [_] => exact absurd h.1 (by simp)
  | first :: second :: others => exact ⟨first, _, rfl, List.cons_ne_nil _ _⟩

theorem Pattern.begins (table : List Shorthand) {p : Pattern} (h : p.Obeys canonicalRules)
    (rest : List (List Char)) : Begins p.sign (p.lexemes table ++ rest) := by
  cases p with
  | triples ts =>
    obtain ⟨t, ts, rfl⟩ := List.exists_cons_of_ne_nil h.1
    rw [Pattern.lexemes, List.flatMap_cons, Triple.lexemes]
    simp only [List.append_assoc]
    exact t.subject.opens table (h.2 t (List.mem_cons_self ..)).1 _
  | union arms =>
    obtain ⟨arm, others, rfl, -⟩ := exists_arms h.1
    have hgroup := (List.forall_mem_cons.1 h.1.2).1
    rw [union_lexemes table hgroup]
    cases arm with
    | group patterns =>
      rw [Pattern.lexemes]
      exact ⟨by decide, _, rfl⟩
    | _ => exact absurd hgroup (by simp [Pattern.isGroup])
  | _ =>
    rw [Pattern.lexemes]
    exact ⟨by decide, _, rfl⟩

/-! ## Parts that may be missing -/

theorem head?_ne_of {ls : List (List Char)} {l : List Char} (h : ∀ ms, ls ≠ l :: ms) :
    ls.head? ≠ some l := by
  cases ls with
  | nil => simp
  | cons first others =>
    intro heq
    obtain rfl : first = l := Option.some.inj heq
    exact h others rfl

/-- A lexeme that may be missing is told by what comes after it. -/
theorem flag_inj {l : List Char} {flag flag' : Bool} {ls ls' : List (List Char)}
    (hls : ls.head? ≠ some l) (hls' : ls'.head? ≠ some l)
    (h : (if flag then [l] else []) ++ ls = (if flag' then [l] else []) ++ ls') :
    flag = flag' ∧ ls = ls' := by
  cases flag <;> cases flag'
  case false.false => exact ⟨rfl, h⟩
  case true.true => exact ⟨rfl, (List.cons.inj h).2⟩
  case false.true => exact absurd (congrArg List.head? h) hls
  case true.false => exact absurd (congrArg List.head? h.symm) hls'

theorem limitLexemes_inj {limit limit' : Option UInt64} {r r' : List (List Char)}
    (hr : r.head? ≠ some "LIMIT".toList) (hr' : r'.head? ≠ some "LIMIT".toList)
    (h : limitLexemes limit ++ r = limitLexemes limit' ++ r') : limit = limit' ∧ r = r' := by
  cases limit <;> cases limit'
  case none.none => exact ⟨rfl, h⟩
  case none.some => exact absurd (congrArg List.head? h) hr
  case some.none => exact absurd (congrArg List.head? h.symm) hr'
  case some.some limit limit' =>
    obtain ⟨hdigits, hrest⟩ := List.cons.inj (List.cons.inj h).2
    have hnumber := congrArg (fun digits => Nat.ofDigitChars 10 digits 0) hdigits
    have htoNat : limit.toNat = limit'.toNat := by simpa using hnumber
    exact ⟨congrArg some (UInt64.toNat_inj.1 htoNat), hrest⟩

/-- The variables that a query shows end at `WHERE`. -/
theorem projection_inj {vs vs' : List Variable} (h : ∀ v ∈ vs, IsPlainName v.name)
    (h' : ∀ v ∈ vs', IsPlainName v.name) {r r' : List (List Char)}
    (heq : vs.map Variable.print ++ "WHERE".toList :: r =
      vs'.map Variable.print ++ "WHERE".toList :: r') : vs = vs' ∧ r = r' := by
  have hwhere : "WHERE".toList ∈ fixedLexemes := by decide
  have hends : ∀ {v : Variable}, IsPlainName v.name → "WHERE".toList ≠ v.print :=
    fun hv heq => print_notMem_fixedLexemes hv (heq ▸ hwhere)
  induction vs generalizing vs' with
  | nil =>
    cases vs' with
    | nil => exact ⟨rfl, (List.cons.inj heq).2⟩
    | cons v' vs' => exact absurd (List.cons.inj heq).1 (hends (List.forall_mem_cons.1 h').1)
  | cons v vs ih =>
    obtain ⟨hv, hvs⟩ := List.forall_mem_cons.1 h
    cases vs' with
    | nil => exact absurd (List.cons.inj heq).1.symm (hends hv)
    | cons v' vs' =>
      obtain ⟨hprint, hothers⟩ := List.cons.inj heq
      have hname : v = v' := congrArg Variable.mk (String.toList_inj.1 (List.cons.inj hprint).2)
      obtain ⟨rfl, hrest⟩ := ih hvs (List.forall_mem_cons.1 h').2 hothers
      exact ⟨by rw [hname], hrest⟩

/-! ## Triples -/

section

variable {table : List Shorthand} (htable : LabelsFit table)
  (hlabels : (table.map Shorthand.label).Nodup) {r r' : List (List Char)}
include htable hlabels

theorem Triple.lexemes_inj {t t' : Triple} (ht : t.Obeys canonicalRules)
    (ht' : t'.Obeys canonicalRules) (h : t.lexemes table ++ r = t'.lexemes table ++ r') :
    t = t' ∧ r = r' := by
  obtain ⟨subject, predicate, object⟩ := t
  obtain ⟨subject', predicate', object'⟩ := t'
  have hpath : ∀ (path : Path) (rest : List (List Char)),
      (path.lexemes table ++ rest).head? ≠ some "^^".toList :=
    fun path rest => head?_ne_of fun ms => path.head_ne (by decide) (by decide) rest ms
  have hdot : ∀ rest : List (List Char), (".".toList :: rest).head? ≠ some "^^".toList := by simp
  simp only [Triple.lexemes, List.append_assoc, List.cons_append, List.nil_append] at h
  obtain ⟨rfl, hverb⟩ := Term.lexemes_inj htable hlabels ht.1 ht'.1 (hpath _ _) (hpath _ _) h
  obtain ⟨rfl, hnode⟩ := Path.readable htable hlabels predicate ht.2.1 _ _ _ ht'.2.1 hverb
  obtain ⟨rfl, hlast⟩ := Term.lexemes_inj htable hlabels ht.2.2 ht'.2.2 (hdot _) (hdot _) hnode
  exact ⟨rfl, (List.cons.inj hlast).2⟩

/-- Triples go on until a fixed lexeme or the end. -/
theorem triples_inj {ts ts' : List Triple} (h : ∀ t ∈ ts, t.Obeys canonicalRules)
    (h' : ∀ t ∈ ts', t.Obeys canonicalRules) (hr : ∀ l ∈ r.head?, l ∈ fixedLexemes)
    (hr' : ∀ l ∈ r'.head?, l ∈ fixedLexemes)
    (heq : ts.flatMap (Triple.lexemes table) ++ r = ts'.flatMap (Triple.lexemes table) ++ r') :
    ts = ts' ∧ r = r' := by
  have hends : ∀ {t : Triple} {rest r : List (List Char)}, t.Obeys canonicalRules →
      (∀ l ∈ r.head?, l ∈ fixedLexemes) → r ≠ t.lexemes table ++ rest := by
    intro t rest r ht hr heq
    obtain ⟨l, ms, hl, hfixed⟩ := t.subject.opens table ht.1
      (t.predicate.lexemes table ++ (t.object.lexemes table ++ [".".toList] ++ rest))
    simp only [Triple.lexemes, List.append_assoc] at heq hl
    exact hfixed (hr l (by rw [heq, hl]; rfl))
  induction ts generalizing ts' with
  | nil =>
    cases ts' with
    | nil => exact ⟨rfl, heq⟩
    | cons t' ts' =>
      rw [List.flatMap_cons, List.append_assoc] at heq
      exact absurd heq (hends (List.forall_mem_cons.1 h').1 hr)
  | cons t ts ih =>
    obtain ⟨ht, hts⟩ := List.forall_mem_cons.1 h
    rw [List.flatMap_cons, List.append_assoc] at heq
    cases ts' with
    | nil => exact absurd heq.symm (hends ht hr')
    | cons t' ts' =>
      obtain ⟨ht', hts'⟩ := List.forall_mem_cons.1 h'
      rw [List.flatMap_cons, List.append_assoc] at heq
      obtain ⟨rfl, hothers⟩ := Triple.lexemes_inj htable hlabels ht ht' heq
      obtain ⟨rfl, hrest⟩ := ih hts hts' hothers
      exact ⟨rfl, hrest⟩

end

/-! ## Expressions -/

/-- A parenthesis or `AS` comes next. -/
def Closes (ls : List (List Char)) : Prop :=
  ∃ l ms, ls = l :: ms ∧ (l = ")".toList ∨ l = "AS".toList)

/-- The expression can be read back inside another one. -/
def Expression.ReadableNested (table : List Shorthand) (e : Expression) : Prop :=
  ∀ (e' : Expression) (r r' : List (List Char)), e'.Obeys canonicalRules →
    r.head? ≠ some "^^".toList → r'.head? ≠ some "^^".toList →
    e.lexemes table true ++ r = e'.lexemes table true ++ r' → e = e' ∧ r = r'

/-- The expression can be read back where it is the whole one. -/
def Expression.ReadableAlone (table : List Shorthand) (e : Expression) : Prop :=
  ∀ (e' : Expression) (r r' : List (List Char)), e'.Obeys canonicalRules →
    Closes r → Closes r' →
    e.lexemes table false ++ r = e'.lexemes table false ++ r' → e = e' ∧ r = r'

/-- The first operand, or the expression itself. -/
def Expression.first : Expression → Expression
  | .binary _ left _ => left
  | e => e

/-- The operator and the second operand. -/
def Expression.others (table : List Shorthand) : Expression → List (List Char)
  | .binary operator _ right => operator.symbol.toList :: right.lexemes table true
  | _ => []

theorem Operator.symbol_facts (operator : Operator) :
    operator.symbol ≠ ")" ∧ operator.symbol ≠ "AS" ∧ operator.symbol ≠ "^^" := by
  cases operator <;> decide

theorem Operator.symbol_injective : Function.Injective Operator.symbol := by
  intro a b h
  cases a <;> cases b <;> first | rfl | exact absurd h (by decide)

section

variable {table : List Shorthand} {e left right : Expression}

theorem Expression.lexemes_alone (e : Expression) :
    e.lexemes table false = e.first.lexemes table true ++ e.others table := by
  cases e with
  | binary operator left right =>
    rw [Expression.lexemes]
    rfl
  | _ => exact (List.append_nil _).symm

theorem Expression.first_obeys (h : e.Obeys canonicalRules) : e.first.Obeys canonicalRules := by
  cases e with
  | binary operator left right => exact h.1
  | _ => exact h

theorem Closes.head?_ne {r : List (List Char)} (h : Closes r) : r.head? ≠ some "^^".toList := by
  obtain ⟨l, ms, rfl, rfl | rfl⟩ := h <;> simp

theorem Closes.ne_symbol {r : List (List Char)} (h : Closes r) (operator : Operator)
    (ls : List (List Char)) : operator.symbol.toList :: ls ≠ r := by
  obtain ⟨hparenthesis, has, -⟩ := operator.symbol_facts
  obtain ⟨l, ms, rfl, rfl | rfl⟩ := h
  · exact fun heq => hparenthesis (String.toList_inj.1 (List.cons.inj heq).1)
  · exact fun heq => has (String.toList_inj.1 (List.cons.inj heq).1)

theorem head?_symbol_ne (operator : Operator) (ls : List (List Char)) :
    (operator.symbol.toList :: ls).head? ≠ some "^^".toList :=
  fun heq => operator.symbol_facts.2.2 (String.toList_inj.1 (Option.some.inj heq))

theorem Expression.head?_others_ne (e : Expression) {r : List (List Char)} (h : Closes r) :
    (e.others table ++ r).head? ≠ some "^^".toList := by
  cases e with
  | binary operator left right => exact head?_symbol_ne operator _
  | _ => exact h.head?_ne

/-- An expression is read back by its operands. -/
theorem Expression.readableAlone (hfirst : e.first.ReadableNested table)
    (hsecond : ∀ operator left right, e = .binary operator left right →
      right.ReadableNested table) : e.ReadableAlone table := by
  intro e' r r' h' hr hr' heq
  rw [lexemes_alone, lexemes_alone, List.append_assoc, List.append_assoc] at heq
  obtain ⟨hfirsts, hothers⟩ := hfirst _ _ _ (first_obeys h') (e.head?_others_ne hr)
    (e'.head?_others_ne hr') heq
  cases e with
  | binary operator left right =>
    cases e' with
    | binary operator' left' right' =>
      obtain ⟨hsymbol, hrights⟩ := List.cons.inj hothers
      obtain rfl := Operator.symbol_injective (String.toList_inj.1 hsymbol)
      obtain ⟨rfl, hrest⟩ :=
        hsecond _ _ _ rfl _ _ _ h'.2 hr.head?_ne hr'.head?_ne hrights
      exact ⟨congrArg (Expression.binary operator · right) hfirsts, hrest⟩
    | _ => exact absurd hothers (hr'.ne_symbol operator _)
  | _ =>
    cases e' with
    | binary operator' left' right' => exact absurd hothers.symm (hr.ne_symbol operator' _)
    | _ => exact ⟨hfirsts, hothers⟩

theorem term_readable (htable : LabelsFit table) (hlabels : (table.map Shorthand.label).Nodup)
    {t : Term} (h : (Expression.term t).Obeys canonicalRules) :
    (Expression.term t).ReadableNested table := by
  intro e' r r' h' hr hr' heq
  have hsign := (Expression.begins table h r).unique (heq ▸ Expression.begins table h' r')
  cases e' with
  | term t' =>
    rw [Expression.lexemes, Expression.lexemes] at heq
    obtain ⟨rfl, hrest⟩ := Term.lexemes_inj htable hlabels h.1 h'.1 hr hr' heq
    exact ⟨rfl, hrest⟩
  | _ => exact absurd hsign.symm (Option.some_ne_none _)

theorem binary_readable (operator : Operator)
    (h : (Expression.binary operator left right).Obeys canonicalRules)
    (hleft : left.ReadableNested table) (hright : right.ReadableNested table) :
    (Expression.binary operator left right).ReadableNested table := by
  intro e' r r' h' hr hr' heq
  have hsign := (Expression.begins table h r).unique (heq ▸ Expression.begins table h' r')
  cases e' with
  | binary operator' left' right' =>
    rw [Expression.lexemes, Expression.lexemes] at heq
    simp only [if_true, List.cons_append, List.append_assoc, List.nil_append, List.cons.injEq,
      true_and] at heq
    obtain ⟨rfl, hsecond⟩ := hleft _ _ _ h'.1 (head?_symbol_ne _ _) (head?_symbol_ne _ _) heq
    obtain ⟨hsymbol, hrights⟩ := List.cons.inj hsecond
    obtain rfl := Operator.symbol_injective (String.toList_inj.1 hsymbol)
    obtain ⟨rfl, hclose⟩ := hright _ _ _ h'.2 (by simp) (by simp) hrights
    exact ⟨rfl, (List.cons.inj hclose).2⟩
  | term t' => exact absurd hsign (by simp [Expression.sign])
  | existence negated patterns =>
    exact absurd hsign (by cases negated <;> simp [Expression.sign])

end

/-! ## Patterns -/

/-- The lexemes may come after the pattern: they do not go on with it. -/
def After (p : Pattern) (ls : List (List Char)) : Prop :=
  ∀ l ∈ ls.head?, l ≠ "UNION".toList ∧ l ≠ "LIMIT".toList ∧ (p.isTriples = true → l ∈ fixedLexemes)

/-- The pattern can be read back; a group also where the next arm of a union comes after it. -/
structure Pattern.Readable (table : List Shorthand) (p : Pattern) : Prop where
  whole : ∀ (p' : Pattern) (r r' : List (List Char)), p'.Obeys canonicalRules →
    After p r → After p' r' →
    p.lexemes table ++ r = p'.lexemes table ++ r' → p = p' ∧ r = r'
  arm : p.isGroup = true → ∀ (p' : Pattern) (r r' : List (List Char)), p'.Obeys canonicalRules →
    p'.isGroup = true → p.lexemes table ++ r = p'.lexemes table ++ r' → p = p' ∧ r = r'

section

variable {table : List Shorthand} {p : Pattern} {ps ps' : List Pattern} {r r' : List (List Char)}

theorem Pattern.sign_ne {l : List Char} (h : p.sign = some l) :
    l ≠ "UNION".toList ∧ l ≠ "LIMIT".toList ∧ l ≠ "\x7d".toList := by
  cases p with
  | triples ts => exact absurd h (by simp [Pattern.sign])
  | _ =>
    obtain rfl := Option.some.inj h
    decide

theorem Pattern.isTriples_of_sign (h : p.sign = none) : p.isTriples = true := by
  cases p with
  | triples ts => rfl
  | _ => exact absurd h (by simp [Pattern.sign])

/-- What stands after the pattern in the same braces does not go on with it. -/
theorem after_lexemesIn (hapart : Apart (p :: ps)) (h : ObeyIn canonicalRules ps) :
    After p (lexemesIn table ps ++ "\x7d".toList :: r) := by
  intro l hl
  cases ps with
  | nil =>
    obtain rfl : "\x7d".toList = l := Option.some.inj hl
    exact ⟨by decide, by decide, fun _ => by decide⟩
  | cons q ps =>
    have hbegins := Pattern.begins table h.1 (lexemesIn table ps ++ "\x7d".toList :: r)
    rw [← List.append_assoc] at hbegins
    cases hsign : q.sign with
    | some first =>
      rw [hsign] at hbegins
      obtain ⟨hfixed, ms, heq⟩ := hbegins
      rw [lexemesIn, heq] at hl
      obtain rfl : first = l := Option.some.inj hl
      obtain ⟨hunion, hlimit, -⟩ := Pattern.sign_ne hsign
      exact ⟨hunion, hlimit, fun _ => hfixed⟩
    | none =>
      rw [hsign] at hbegins
      obtain ⟨first, ms, heq, hfixed⟩ := hbegins
      rw [lexemesIn, heq] at hl
      obtain rfl : first = l := Option.some.inj hl
      have hadjacent : ¬ (p.isTriples = true ∧ q.isTriples = true) :=
        (List.isChain_cons_cons.1 hapart).1
      refine ⟨?_, ?_, fun hp => absurd ⟨hp, Pattern.isTriples_of_sign hsign⟩ hadjacent⟩
      · exact fun heq => hfixed (heq ▸ by decide)
      · exact fun heq => hfixed (heq ▸ by decide)

/-- A pattern does not begin with the brace that closes others. -/
theorem Pattern.lexemes_ne_close (h : p.Obeys canonicalRules) (rest ls : List (List Char)) :
    p.lexemes table ++ rest ≠ "\x7d".toList :: ls := by
  intro heq
  have hbegins := Pattern.begins table h rest
  have hclose : Begins (some "\x7d".toList) (p.lexemes table ++ rest) := ⟨by decide, ls, heq⟩
  exact (Pattern.sign_ne (hbegins.unique hclose)).2.2 rfl

/-- Patterns are read back up to the brace that closes them. -/
theorem lexemesIn_inj (hreadable : ∀ p ∈ ps, p.Readable table) (hapart : Apart ps)
    (hapart' : Apart ps') (h : ObeyIn canonicalRules ps) (h' : ObeyIn canonicalRules ps')
    (heq : lexemesIn table ps ++ "\x7d".toList :: r = lexemesIn table ps' ++ "\x7d".toList :: r') :
    ps = ps' ∧ r = r' := by
  induction ps generalizing ps' with
  | nil =>
    cases ps' with
    | nil => exact ⟨rfl, (List.cons.inj heq).2⟩
    | cons p' ps' =>
      rw [lexemesIn, lexemesIn, List.append_assoc] at heq
      exact absurd heq.symm (Pattern.lexemes_ne_close h'.1 _ _)
  | cons p ps ih =>
    obtain ⟨hp, hps⟩ := List.forall_mem_cons.1 hreadable
    cases ps' with
    | nil =>
      rw [lexemesIn, lexemesIn, List.append_assoc] at heq
      exact absurd heq (Pattern.lexemes_ne_close h.1 _ _)
    | cons p' ps' =>
      rw [lexemesIn, lexemesIn, List.append_assoc, List.append_assoc] at heq
      obtain ⟨rfl, hothers⟩ := hp.whole _ _ _ h'.1 (after_lexemesIn hapart h.2)
        (after_lexemesIn hapart' h'.2) heq
      obtain ⟨rfl, hrest⟩ := ih hps (List.isChain_of_isChain_cons hapart)
        (List.isChain_of_isChain_cons hapart') h.2 h'.2 hothers
      exact ⟨rfl, hrest⟩

/-- Patterns in braces are read back. -/
theorem bracedLexemes_inj (hreadable : ∀ p ∈ ps, p.Readable table) (hapart : Apart ps)
    (hapart' : Apart ps') (h : ObeyIn canonicalRules ps) (h' : ObeyIn canonicalRules ps')
    (heq : bracedLexemes (lexemesIn table ps) ++ r = bracedLexemes (lexemesIn table ps') ++ r') :
    ps = ps' ∧ r = r' := by
  simp only [bracedLexemes, List.cons_append, List.append_assoc, List.nil_append, List.cons.injEq,
    true_and] at heq
  exact lexemesIn_inj hreadable hapart hapart' h h' heq

/-- Another arm is told by its keyword. -/
theorem armLexemes_ne {arms : List Pattern} (hne : arms ≠ [])
    (hr : r.head? ≠ some "UNION".toList) : armLexemes table false arms ++ r' ≠ r := by
  obtain ⟨arm, arms, rfl⟩ := List.exists_cons_of_ne_nil hne
  rintro rfl
  unfold armLexemes at hr
  exact hr rfl

/-- The further arms of a union are read back. -/
theorem armLexemes_inj {arms arms' : List Pattern} (hreadable : ∀ arm ∈ arms, arm.Readable table)
    (hgroups : ∀ arm ∈ arms, arm.isGroup = true) (hgroups' : ∀ arm ∈ arms', arm.isGroup = true)
    (h' : ObeyIn canonicalRules arms') (hr : r.head? ≠ some "UNION".toList)
    (hr' : r'.head? ≠ some "UNION".toList)
    (heq : armLexemes table false arms ++ r = armLexemes table false arms' ++ r') :
    arms = arms' ∧ r = r' := by
  induction arms generalizing arms' with
  | nil =>
    cases arms' with
    | nil => exact ⟨rfl, heq⟩
    | cons arm' arms' => exact absurd heq.symm (armLexemes_ne (List.cons_ne_nil _ _) hr)
  | cons arm arms ih =>
    obtain ⟨harm, harms⟩ := List.forall_mem_cons.1 hreadable
    obtain ⟨hgroup, hgroups⟩ := List.forall_mem_cons.1 hgroups
    cases arms' with
    | nil => exact absurd heq (armLexemes_ne (List.cons_ne_nil _ _) hr')
    | cons arm' arms' =>
      obtain ⟨hgroup', hothers'⟩ := List.forall_mem_cons.1 hgroups'
      rw [armLexemes_cons table false hgroup, armLexemes_cons table false hgroup',
        List.append_assoc, List.append_assoc, List.append_assoc, List.append_assoc] at heq
      obtain ⟨rfl, hothers⟩ :=
        harm.arm hgroup _ _ _ h'.1 hgroup' (List.append_cancel_left heq)
      obtain ⟨rfl, hrest⟩ := ih harms hgroups hothers' h'.2 hothers
      exact ⟨rfl, hrest⟩

end

/-! ### Each kind of pattern -/

section

variable {table : List Shorthand} {p : Pattern} {ps : List Pattern}

/-- Patterns that are no groups need not be arms. -/
theorem Pattern.readable_of_whole (hgroup : p.isGroup = false)
    (whole : ∀ (p' : Pattern) (r r' : List (List Char)), p'.Obeys canonicalRules →
      After p r → After p' r' → p.sign = p'.sign →
      p.lexemes table ++ r = p'.lexemes table ++ r' → p = p' ∧ r = r')
    (h : p.Obeys canonicalRules) : p.Readable table where
  whole p' r r' h' hr hr' heq :=
    whole p' r r' h' hr hr'
      ((Pattern.begins table h r).unique (heq ▸ Pattern.begins table h' r')) heq
  arm hp := absurd hp (by simp [hgroup])

theorem triples_readable (htable : LabelsFit table)
    (hlabels : (table.map Shorthand.label).Nodup) {ts : List Triple}
    (h : (Pattern.triples ts).Obeys canonicalRules) : (Pattern.triples ts).Readable table := by
  refine Pattern.readable_of_whole rfl (fun p' r r' h' hr hr' hsign heq => ?_) h
  cases p' with
  | triples ts' =>
    rw [Pattern.lexemes, Pattern.lexemes] at heq
    obtain ⟨rfl, hrest⟩ := triples_inj htable hlabels h.2 h'.2 (fun l hl => (hr l hl).2.2 rfl)
      (fun l hl => (hr' l hl).2.2 rfl) heq
    exact ⟨rfl, hrest⟩
  | _ => exact absurd hsign (by simp [Pattern.sign])

theorem closes_parenthesis (ls : List (List Char)) : Closes (")".toList :: ls) :=
  ⟨_, _, rfl, .inl rfl⟩

theorem bind_readable {target : Variable} {value : Expression}
    (h : (Pattern.bind target value).Obeys canonicalRules) (hvalue : value.ReadableAlone table) :
    (Pattern.bind target value).Readable table := by
  refine Pattern.readable_of_whole rfl (fun p' r r' h' _ _ hsign heq => ?_) h
  cases p' with
  | bind target' value' =>
    rw [Pattern.lexemes, Pattern.lexemes] at heq
    simp only [List.cons_append, List.append_assoc, List.nil_append, List.cons.injEq,
      true_and] at heq
    obtain ⟨rfl, hlast⟩ := hvalue _ _ _ h'.2 ⟨_, _, rfl, .inr rfl⟩ ⟨_, _, rfl, .inr rfl⟩ heq
    obtain ⟨hname, hrest⟩ := List.cons.inj (List.cons.inj hlast).2
    have htarget : target = target' :=
      congrArg Variable.mk (String.toList_inj.1 (List.cons.inj hname).2)
    exact ⟨by rw [htarget], (List.cons.inj hrest).2⟩
  | _ => exact absurd hsign (by simp [Pattern.sign])

theorem filter_readable {condition : Expression}
    (h : (Pattern.filter condition).Obeys canonicalRules)
    (hcondition : condition.ReadableAlone table) : (Pattern.filter condition).Readable table := by
  refine Pattern.readable_of_whole rfl (fun p' r r' h' _ _ hsign heq => ?_) h
  cases p' with
  | filter condition' =>
    rw [Pattern.lexemes, Pattern.lexemes] at heq
    simp only [List.cons_append, List.append_assoc, List.nil_append, List.cons.injEq,
      true_and] at heq
    obtain ⟨rfl, hlast⟩ := hcondition _ _ _ h' (closes_parenthesis _) (closes_parenthesis _) heq
    exact ⟨rfl, (List.cons.inj hlast).2⟩
  | _ => exact absurd hsign (by simp [Pattern.sign])

theorem minus_readable (h : (Pattern.minus ps).Obeys canonicalRules)
    (hps : ∀ p ∈ ps, p.Readable table) : (Pattern.minus ps).Readable table := by
  refine Pattern.readable_of_whole rfl (fun p' r r' h' _ _ hsign heq => ?_) h
  cases p' with
  | minus ps' =>
    rw [Pattern.lexemes, Pattern.lexemes] at heq
    obtain ⟨rfl, hrest⟩ := bracedLexemes_inj hps h.1.1 h'.1.1 h.2.2 h'.2.2 (List.cons.inj heq).2
    exact ⟨rfl, hrest⟩
  | _ => exact absurd hsign (by simp [Pattern.sign])

theorem service_readable (htable : LabelsFit table)
    (hlabels : (table.map Shorthand.label).Nodup) {endpoint : Iri} {silent : Bool}
    (h : (Pattern.service endpoint silent ps).Obeys canonicalRules)
    (hps : ∀ p ∈ ps, p.Readable table) :
    (Pattern.service endpoint silent ps).Readable table := by
  have hsilent : ∀ (endpoint : Iri) (ls : List (List Char)),
      (writeIri table endpoint :: ls).head? ≠ some "SILENT".toList := by
    intro endpoint ls heq
    have hmem := writeIri_notMem_fixedLexemes table endpoint
    rw [Option.some.inj heq] at hmem
    exact hmem (by decide)
  refine Pattern.readable_of_whole rfl (fun p' r r' h' _ _ hsign heq => ?_) h
  cases p' with
  | service endpoint' silent' ps' =>
    rw [Pattern.lexemes, Pattern.lexemes] at heq
    simp only [List.cons_append, List.append_assoc, List.cons.injEq, true_and] at heq
    obtain ⟨rfl, hothers⟩ := flag_inj (hsilent _ _) (hsilent _ _) heq
    obtain ⟨hendpoint, hbraces⟩ := List.cons.inj hothers
    obtain rfl := writeIri_inj htable hlabels h.1 h'.1 hendpoint
    obtain ⟨rfl, hrest⟩ := bracedLexemes_inj hps h.2.1.1 h'.2.1.1 h.2.2.2 h'.2.2.2 hbraces
    exact ⟨rfl, hrest⟩
  | _ => exact absurd hsign (by simp [Pattern.sign])

theorem subquery_readable {distinct : Bool} {projection : List Variable} {limit : Option UInt64}
    (h : (Pattern.subquery distinct projection ps limit).Obeys canonicalRules)
    (hps : ∀ p ∈ ps, p.Readable table) :
    (Pattern.subquery distinct projection ps limit).Readable table := by
  have hdistinct : ∀ {projection : List Variable} (ls : List (List Char)),
      (∀ v ∈ projection, IsPlainName v.name) →
      (projection.map Variable.print ++ "WHERE".toList :: ls).head? ≠ some "DISTINCT".toList := by
    intro projection ls hplain heq
    cases projection with
    | nil => exact absurd heq (by simp)
    | cons v vs =>
      have hmem := print_notMem_fixedLexemes (hplain v (List.mem_cons_self ..))
      rw [Option.some.inj heq] at hmem
      exact hmem (by decide)
  refine Pattern.readable_of_whole rfl (fun p' r r' h' hr hr' hsign heq => ?_) h
  cases p' with
  | subquery distinct' projection' ps' limit' =>
    rw [Pattern.lexemes, Pattern.lexemes] at heq
    simp only [selectLexemes, List.cons_append, List.append_assoc, List.nil_append,
      List.cons.injEq, true_and] at heq
    obtain ⟨rfl, hshown⟩ := flag_inj (hdistinct _ h.2.1) (hdistinct _ h'.2.1) heq
    obtain ⟨rfl, hbraces⟩ := projection_inj h.2.1 h'.2.1 hshown
    obtain ⟨rfl, hlimit⟩ := bracedLexemes_inj hps h.2.2.1.1 h'.2.2.1.1 h.2.2.2.2 h'.2.2.2.2 hbraces
    obtain ⟨rfl, hrest⟩ := limitLexemes_inj (fun hl => (hr _ hl).2.1 rfl)
      (fun hl => (hr' _ hl).2.1 rfl) hlimit
    exact ⟨rfl, hrest⟩
  | _ => exact absurd hsign (by simp [Pattern.sign])

theorem existence_readable {negated : Bool}
    (h : (Expression.existence negated ps).Obeys canonicalRules)
    (hps : ∀ p ∈ ps, p.Readable table) :
    (Expression.existence negated ps).ReadableNested table := by
  intro e' r r' h' _ _ heq
  have hsign := (Expression.begins table h r).unique (heq ▸ Expression.begins table h' r')
  cases e' with
  | existence negated' ps' =>
    obtain rfl : negated = negated' := by
      cases negated <;> cases negated' <;>
        first | rfl | exact absurd hsign (by simp [Expression.sign])
    rw [Expression.lexemes, Expression.lexemes, List.append_assoc, List.append_assoc] at heq
    obtain ⟨rfl, hrest⟩ := bracedLexemes_inj hps h.1.1 h'.1.1 h.2.2 h'.2.2
      (List.append_cancel_left heq)
    exact ⟨rfl, hrest⟩
  | term t' => exact absurd hsign (by cases negated <;> simp [Expression.sign])
  | binary operator' left' right' =>
    exact absurd hsign (by cases negated <;> simp [Expression.sign])

theorem After.head?_ne {p : Pattern} {r : List (List Char)} (h : After p r) :
    r.head? ≠ some "UNION".toList := fun hr => (h _ hr).1 rfl

theorem group_readable (h : (Pattern.group ps).Obeys canonicalRules)
    (hps : ∀ p ∈ ps, p.Readable table) : (Pattern.group ps).Readable table := by
  have harm : ∀ (p' : Pattern) (r r' : List (List Char)), p'.Obeys canonicalRules →
      p'.isGroup = true → (Pattern.group ps).lexemes table ++ r = p'.lexemes table ++ r' →
        .group ps = p' ∧ r = r' := by
    intro p' r r' h' hgroup heq
    cases p' with
    | group ps' =>
      rw [Pattern.lexemes, Pattern.lexemes] at heq
      obtain ⟨rfl, hrest⟩ := bracedLexemes_inj hps h.1.1 h'.1.1 h.2 h'.2 heq
      exact ⟨rfl, hrest⟩
    | _ => exact absurd hgroup (by simp [Pattern.isGroup])
  refine ⟨fun p' r r' h' hr hr' heq => ?_, fun _ => harm⟩
  have hsign := (Pattern.begins table h r).unique (heq ▸ Pattern.begins table h' r')
  cases p' with
  | group ps' => exact harm _ _ _ h' rfl heq
  | union arms' =>
    obtain ⟨arm', others', rfl, hne⟩ := exists_arms h'.1
    have hgroup' := (List.forall_mem_cons.1 h'.1.2).1
    rw [union_lexemes table hgroup', List.append_assoc] at heq
    obtain ⟨-, hrest⟩ := harm _ _ _ h'.2.1 hgroup' heq
    exact absurd hrest.symm (armLexemes_ne hne hr.head?_ne)
  | _ => exact absurd hsign (by simp [Pattern.sign])

theorem union_readable {arms : List Pattern} (h : (Pattern.union arms).Obeys canonicalRules)
    (harms : ∀ arm ∈ arms, arm.Readable table) : (Pattern.union arms).Readable table := by
  refine Pattern.readable_of_whole rfl (fun p' r r' h' hr hr' hsign heq => ?_) h
  obtain ⟨arm, others, rfl, hne⟩ := exists_arms h.1
  obtain ⟨harm, hothers⟩ := List.forall_mem_cons.1 harms
  obtain ⟨hgroup, hgroups⟩ := List.forall_mem_cons.1 h.1.2
  rw [union_lexemes table hgroup, List.append_assoc] at heq
  cases p' with
  | group ps' =>
    obtain ⟨-, hrest⟩ := harm.arm hgroup _ _ _ h' rfl heq
    exact absurd hrest (armLexemes_ne hne hr'.head?_ne)
  | union arms' =>
    obtain ⟨arm', others', rfl, -⟩ := exists_arms h'.1
    obtain ⟨hgroup', hgroups'⟩ := List.forall_mem_cons.1 h'.1.2
    rw [union_lexemes table hgroup', List.append_assoc] at heq
    obtain ⟨rfl, hfurther⟩ := harm.arm hgroup _ _ _ h'.2.1 hgroup' heq
    obtain ⟨rfl, hrest⟩ := armLexemes_inj hothers hgroups hgroups' h'.2.2 hr.head?_ne
      hr'.head?_ne hfurther
    exact ⟨rfl, hrest⟩
  | _ => exact absurd hsign (by simp [Pattern.sign])

end

/-! ### All patterns -/

mutual

/-- A canonical expression is read back, inside another one and on its own. -/
theorem Expression.readable {table : List Shorthand} (htable : LabelsFit table)
    (hlabels : (table.map Shorthand.label).Nodup) :
    (e : Expression) → e.Obeys canonicalRules → e.ReadableNested table ∧ e.ReadableAlone table
  | .term t, h => by
    have hterm := term_readable htable hlabels h
    exact ⟨hterm, Expression.readableAlone hterm fun _ _ _ heq => absurd heq (by simp)⟩
  | .binary operator left right, h => by
    have hleft := (left.readable htable hlabels h.1).1
    have hright := (right.readable htable hlabels h.2).1
    refine ⟨binary_readable operator h hleft hright, Expression.readableAlone hleft ?_⟩
    intro operator' left' right' heq
    cases heq
    exact hright
  | .existence negated patterns, h => by
    have hexistence := existence_readable h (readableIn htable hlabels patterns h.2.2)
    exact ⟨hexistence, Expression.readableAlone hexistence fun _ _ _ heq => absurd heq (by simp)⟩

/-- A canonical pattern is read back. -/
theorem Pattern.readable {table : List Shorthand} (htable : LabelsFit table)
    (hlabels : (table.map Shorthand.label).Nodup) :
    (p : Pattern) → p.Obeys canonicalRules → p.Readable table
  | .triples _, h => triples_readable htable hlabels h
  | .bind _ value, h => bind_readable h (value.readable htable hlabels h.2).2
  | .filter condition, h => filter_readable h (condition.readable htable hlabels h).2
  | .union arms, h => union_readable h (readableIn htable hlabels arms h.2)
  | .minus patterns, h => minus_readable h (readableIn htable hlabels patterns h.2.2)
  | .group patterns, h => group_readable h (readableIn htable hlabels patterns h.2)
  | .service _ _ patterns, h =>
    service_readable htable hlabels h (readableIn htable hlabels patterns h.2.2.2)
  | .subquery _ _ patterns _, h =>
    subquery_readable h (readableIn htable hlabels patterns h.2.2.2.2)

theorem readableIn {table : List Shorthand} (htable : LabelsFit table)
    (hlabels : (table.map Shorthand.label).Nodup) :
    (ps : List Pattern) → ObeyIn canonicalRules ps → ∀ p ∈ ps, p.Readable table
  | [], _ => fun _ hp => absurd hp List.not_mem_nil
  | p :: ps, h => List.forall_mem_cons.2
    ⟨p.readable htable hlabels h.1, readableIn htable hlabels ps h.2⟩

end

/-! ## Queries -/

namespace SelectQuery

/-- The query obeys the canonical rules. -/
def IsCanonical (q : SelectQuery) : Prop := q.Obeys canonicalRules

theorem toPattern_injective : Function.Injective toPattern := by
  intro a b h
  cases a
  cases b
  cases h
  rfl

/-- Canonical queries with the same lexemes are the same. -/
theorem eq_of_lexemes_eq {table : List Shorthand} (htable : LabelsFit table)
    (hlabels : (table.map Shorthand.label).Nodup) (declare : Bool) {a b : SelectQuery}
    (ha : a.IsCanonical) (hb : b.IsCanonical)
    (h : a.lexemes table declare = b.lexemes table declare) : a = b := by
  have hend : ∀ p : Pattern, After p [] := fun p l hl => absurd hl (by simp)
  have hpatterns : a.toPattern.lexemes table ++ [] = b.toPattern.lexemes table ++ [] :=
    congrArg (· ++ []) (List.append_cancel_left h)
  have hreadable := Pattern.readable htable hlabels a.toPattern ha
  exact toPattern_injective (hreadable.whole _ _ _ hb (hend _) (hend _) hpatterns).1

/-- **Printing loses nothing.**  Whatever the namespaces are, canonical queries with the same text
are the same query. -/
theorem eq_of_render_eq (n : Namespaces) (declare : Bool) {a b : SelectQuery}
    (ha : a.IsCanonical) (hb : b.IsCanonical)
    (h : a.render n.shorthands declare = b.render n.shorthands declare) : a = b := by
  have htable := labelsFit_shorthands n
  have hlabels : (n.shorthands.map Shorthand.label).Nodup := by
    rw [map_label_shorthands]
    decide
  have htext := String.ofList_injective h
  have hscans := scans htable canonicalRules_scannable declare ha
  rw [htext] at hscans
  exact eq_of_lexemes_eq htable hlabels declare ha hb
    (hscans.unique (scans htable canonicalRules_scannable declare hb))

/-- The items that are linked to a target through subclasses, or else have a text and no link. -/
def linkedOrNoted (link target : Iri) : SelectQuery where
  distinct := true
  projection := [.item]
  patterns :=
    [ .union
        [ .group [.triple Variable.item (Path.sequence [link, Path.zeroOrMore link]) target],
          .group
            [ .triple Variable.item target (Literal.plain "a \\ b"),
              .filter (.existence true [.triple Variable.item link (.blank "any")]) ] ] ]
  limit := some 5

theorem isCanonical_linkedOrNoted {link target : Iri}
    (hlink : ∀ ch ∈ link.text.toList, isForbiddenInIri ch = false)
    (htarget : ∀ ch ∈ target.text.toList, isForbiddenInIri ch = false) :
    (linkedOrNoted link target).IsCanonical := by
  have hitem : IsPlainName Variable.item.name := by decide
  have hany : IsPlainName "any" := by decide
  simpa [IsCanonical, SelectQuery.Obeys, toPattern, linkedOrNoted, Pattern.Obeys,
    Expression.Obeys, Pattern.triple, Triple.Obeys, Term.Obeys, Path.Obeys, PathsObey,
    Path.sequence, Path.zeroOrMore, Literal.plain, canonicalRules, Apart, Pattern.isTriples,
    Pattern.isGroup, Pattern.isSubquery, PathOperator.HasOperands, PathOperator.isBinary, hitem,
    hany] using And.intro (And.intro hlink htarget) (And.intro htarget hlink)

/-- The IRIs are the same in full and by their namespaces, and so is the text. -/
theorem eq_of_render_eq_linkedOrNoted :
    ∃ a b : SelectQuery,
      a = linkedOrNoted ⟨"http://www.wikidata.org/prop/direct/P31"⟩
        ⟨"http://www.wikidata.org/entity/Q5"⟩ ∧
      b = linkedOrNoted (({} : Namespaces).direct "P31") (({} : Namespaces).entity "Q5") ∧
      a.IsCanonical ∧ b.IsCanonical ∧
      a.render ({} : Namespaces).shorthands true = b.render ({} : Namespaces).shorthands true ∧
      a = b := by
  have ha : (linkedOrNoted ⟨"http://www.wikidata.org/prop/direct/P31"⟩
      ⟨"http://www.wikidata.org/entity/Q5"⟩).IsCanonical :=
    isCanonical_linkedOrNoted (by decide) (by decide)
  have hb : (linkedOrNoted (({} : Namespaces).direct "P31")
      (({} : Namespaces).entity "Q5")).IsCanonical :=
    isCanonical_linkedOrNoted (by decide) (by decide)
  have htext : (linkedOrNoted ⟨"http://www.wikidata.org/prop/direct/P31"⟩
      ⟨"http://www.wikidata.org/entity/Q5"⟩).render ({} : Namespaces).shorthands true =
        (linkedOrNoted (({} : Namespaces).direct "P31") (({} : Namespaces).entity "Q5")).render
          ({} : Namespaces).shorthands true := rfl
  exact ⟨_, _, rfl, rfl, ha, hb, htext, eq_of_render_eq {} true ha hb htext⟩

end SelectQuery

end WikibaseQuery

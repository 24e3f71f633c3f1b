import WikibaseQuery.Proofs.Scanning
import WikibaseQuery.Proofs.Spelling

/-!
# Texts between quotation marks

A literal is printed between quotation marks, and whatever its text, the closing mark is the first
bare one after the opening one.  The patterns of an existence test are printed in lines, which are
trimmed and joined to one; no literal is on two lines or reaches to the end of one, so that all are
kept as they are.

* `readLiteral_escapeLiteral` — a literal is read back, and what follows is left;
* `onOneLine_literal` — a literal is kept where lines are joined;
* `Quotes`, `Pattern.quotes` — the literals that a printed pattern has;
* `literals_stay_whole` — all of this together.
-/

namespace WikibaseQuery

/-! ## Reading a literal -/

/-- The content of a literal up to its closing mark, and what follows the mark.  A backslash takes
the next character with it. -/
def cutLiteral : List Char → Option (List Char × List Char)
  | [] | ['\\'] => none
  | '\\' :: ch :: rest => (cutLiteral rest).map fun cut => ('\\' :: ch :: cut.1, cut.2)
  | ch :: rest =>
    if ch = '"' then some ([], rest) else (cutLiteral rest).map fun cut => (ch :: cut.1, cut.2)

/-- The text of a literal that opens here, and what follows the literal. -/
def readLiteral : List Char → Option (List Char × List Char)
  | '"' :: rest => (cutLiteral rest).map fun cut => (unescapeLiteral cut.1, cut.2)
  | _ => none

theorem cutLiteral_escapedLiteralChar (ch : Char) (cs : List Char) :
    cutLiteral (escapedLiteralChar ch ++ cs) =
      (cutLiteral cs).map fun cut => (escapedLiteralChar ch ++ cut.1, cut.2) := by
  unfold escapedLiteralChar
  split
  case h_6 hslash hquote _ _ _ =>
    rw [List.singleton_append, cutLiteral, if_neg hquote]
    · rfl
    · exact fun h _ => hslash h
    · exact fun _ _ h _ => hslash h
  all_goals rfl

/-- The first bare mark after an escaped text is the one that closes it. -/
theorem cutLiteral_escapeLiteral (text rest : List Char) :
    cutLiteral (escapeLiteral text ++ '"' :: rest) = some (escapeLiteral text, rest) := by
  induction text with
  | nil => rfl
  | cons ch text ih =>
    rw [escapeLiteral] at ih
    rw [escapeLiteral, List.flatMap_cons, List.append_assoc, cutLiteral_escapedLiteralChar, ih,
      Option.map_some]

/-- **A literal is read back**, whatever its text, and what follows it is left. -/
theorem readLiteral_escapeLiteral (text rest : List Char) :
    readLiteral ('"' :: (escapeLiteral text ++ '"' :: rest)) = some (text, rest) := by
  rw [readLiteral, cutLiteral_escapeLiteral, Option.map_some, unescapeLiteral_escapeLiteral]

/-! ## Lines and their ends -/

/-- A text without breaks goes before the first line. -/
theorem lines_append_of_notMem {cs : List Char} (h : '\n' ∉ cs) (hne : cs ≠ []) (rest : List Char) :
    lines (cs ++ rest) = (cs ++ (lines rest).headD []) :: (lines rest).tail := by
  induction cs with
  | nil => exact absurd rfl hne
  | cons ch cs ih =>
    obtain ⟨hch, hcs⟩ := List.ne_and_not_mem_of_not_mem_cons h
    rw [List.cons_append, lines, if_neg hch.symm]
    cases cs with
    | nil =>
      rw [List.nil_append]
      cases lines rest <;> rfl
    | cons second cs =>
      rw [ih hcs (List.cons_ne_nil _ _)]
      rfl

/-! ## A literal on a line -/

/-- The text without blank characters at its end. -/
def trimEnd (cs : List Char) : List Char := (cs.reverse.dropWhile isBlank).reverse

/-- A quotation mark is no blank, so that nothing beyond it is cut off. -/
theorem dropWhile_append_mark (cs rest : List Char) :
    (cs ++ '"' :: rest).dropWhile isBlank = cs.dropWhile isBlank ++ '"' :: rest := by
  have hmark : isBlank '"' = false := by decide
  induction cs with
  | nil => exact List.dropWhile_cons_of_neg (by simp [hmark])
  | cons ch cs ih =>
    cases hch : isBlank ch with
    | true => simpa [hch] using ih
    | false => simp [hch]

theorem trimEnd_append_mark (cs rest : List Char) :
    trimEnd (cs ++ '"' :: rest) = cs ++ '"' :: trimEnd rest := by
  have hreverse : (cs ++ '"' :: rest).reverse = rest.reverse ++ '"' :: cs.reverse := by simp
  rw [trimEnd, hreverse, dropWhile_append_mark]
  simp [trimEnd]

/-- What stands between two marks is not trimmed. -/
theorem trim_marks (cs mid rest : List Char) :
    trim (cs ++ '"' :: (mid ++ '"' :: rest)) =
      cs.dropWhile isBlank ++ '"' :: (mid ++ '"' :: trimEnd rest) := by
  have hcut : trim (cs ++ '"' :: (mid ++ '"' :: rest)) =
      trimEnd ((cs.dropWhile isBlank ++ '"' :: mid) ++ '"' :: rest) := by
    rw [trim, dropWhile_append_mark, List.append_assoc, List.cons_append, trimEnd]
  rw [hcut, trimEnd_append_mark, List.append_assoc, List.cons_append]

/-- **A literal is kept where lines are joined**, and what becomes of the text before it and after
it does not hang on the literal. -/
theorem onOneLine_literal (before after : List Char) :
    ∃ front back, ∀ text, onOneLine (before ++ '"' :: (escapeLiteral text ++ '"' :: after)) =
      front ++ '"' :: (escapeLiteral text ++ '"' :: back) := by
  -- The induction is on what stands before; `cs` is the part of the line that has been passed.
  have hline : ∀ (before cs : List Char), '\n' ∉ cs → ∃ front back, ∀ text,
      onOneLine (cs ++ (before ++ '"' :: (escapeLiteral text ++ '"' :: after))) =
        front ++ '"' :: (escapeLiteral text ++ '"' :: back) := by
    intro before
    induction before with
    | nil =>
      intro cs hcs
      refine ⟨cs.dropWhile isBlank, trimEnd ((lines after).headD []) ++
        ((lines after).tail.map trim).flatMap ([' '] ++ ·), fun text => ?_⟩
      have hbreak : '\n' ∉ cs ++ '"' :: (escapeLiteral text ++ ['"']) := by
        simpa using ⟨hcs, notMem_escapeLiteral (.inl rfl) text⟩
      have hlines := lines_append_of_notMem hbreak (by simp) after
      simp only [List.append_assoc, List.cons_append, List.nil_append] at hlines
      rw [List.nil_append, onOneLine, hlines, List.map_cons, trim_marks, join_cons]
      simp
    | cons ch before ih =>
      intro cs hcs
      by_cases hch : ch = '\n'
      · subst hch
        obtain ⟨front, back, hrest⟩ := ih [] List.not_mem_nil
        refine ⟨trim cs ++ ' ' :: front, back, fun text => ?_⟩
        rw [List.cons_append, onOneLine_append_break hcs, if_neg (by simp),
          ← List.nil_append before, List.append_assoc, hrest, List.append_assoc, List.cons_append]
      · obtain ⟨front, back, hnext⟩ := ih (cs ++ [ch]) (by simpa using ⟨hcs, Ne.symm hch⟩)
        exact ⟨front, back, fun text => by simpa using hnext text⟩
  exact hline before [] List.not_mem_nil

/-! ## The literals of a text -/

/-- The text has the literals of these texts, in order, each escaped between its quotation marks,
and no quotation mark besides. -/
inductive Quotes : List Char → List String → Prop
  | nil : Quotes [] []
  | other {ch : Char} {rest : List Char} {texts : List String} :
      ch ≠ '"' → Quotes rest texts → Quotes (ch :: rest) texts
  | literal (text : String) {rest : List Char} {texts : List String} : Quotes rest texts →
      Quotes ('"' :: (escapeLiteral text.toList ++ '"' :: rest)) (text :: texts)

section

variable {cs ds : List Char} {texts others : List String}

/-- A text is read in one way. -/
theorem Quotes.unique (h : Quotes cs texts) (h' : Quotes cs others) : texts = others := by
  induction h generalizing others with
  | nil =>
    cases h'
    rfl
  | other hch _ ih =>
    cases h' with
    | other _ hrest => exact ih hrest
    | literal => exact absurd rfl hch
  | @literal text rest texts _ ih =>
    generalize hread : '"' :: (escapeLiteral text.toList ++ '"' :: rest) = cs at h'
    cases h' with
    | nil => exact absurd hread (by simp)
    | other hch =>
      obtain ⟨rfl, -⟩ := List.cons.inj hread
      exact absurd rfl hch
    | @literal text' rest' others' hrest =>
      have hboth := readLiteral_escapeLiteral text.toList rest
      rw [hread, readLiteral_escapeLiteral, Option.some.injEq, Prod.mk.injEq] at hboth
      obtain ⟨htext, rfl⟩ := hboth
      rw [String.toList_inj.1 htext, ih hrest]

theorem Quotes.iff (h : Quotes cs texts) (others : List String) :
    Quotes cs others ↔ others = texts :=
  ⟨fun h' => h'.unique h, fun heq => heq ▸ h⟩

theorem Quotes.append (h : Quotes cs texts) (h' : Quotes ds others) :
    Quotes (cs ++ ds) (texts ++ others) := by
  induction h with
  | nil => exact h'
  | other hch _ ih => exact .other hch ih
  | literal text _ ih =>
    have hall := Quotes.literal text ih
    simpa using hall

/-- A text without quotation marks has no literals. -/
theorem quotes_of_notMem (h : '"' ∉ cs) : Quotes cs [] := by
  induction cs with
  | nil => exact .nil
  | cons ch cs ih =>
    obtain ⟨hch, hcs⟩ := List.ne_and_not_mem_of_not_mem_cons h
    exact .other hch.symm (ih hcs)

theorem Quotes.after (h : Quotes cs texts) (hds : '"' ∉ ds) : Quotes (ds ++ cs) texts :=
  (quotes_of_notMem hds).append h

theorem Quotes.before (h : Quotes cs texts) (hds : '"' ∉ ds) : Quotes (cs ++ ds) texts := by
  have hall := h.append (quotes_of_notMem hds)
  rwa [List.append_nil] at hall

/-! ### Lines as one -/

theorem Quotes.dropWhile (h : Quotes cs texts) : Quotes (cs.dropWhile isBlank) texts := by
  induction h with
  | nil => exact .nil
  | @other ch rest texts hch hrest ih =>
    cases hblank : isBlank ch with
    | true => simpa [hblank] using ih
    | false => simpa [hblank] using Quotes.other hch hrest
  | literal text hrest _ => exact dropWhile_append_mark [] _ ▸ .literal text hrest

/-- A character stays, unless it is a blank before blanks alone. -/
theorem trimEnd_cons (ch : Char) (cs : List Char) :
    trimEnd (ch :: cs) = ch :: trimEnd cs ∨ trimEnd (ch :: cs) = [] ∧ trimEnd cs = [] := by
  have hreverse : (ch :: cs).reverse = cs.reverse ++ [ch] := List.reverse_cons
  unfold trimEnd
  rw [hreverse, List.dropWhile_append]
  split
  · rename_i hempty
    rw [List.isEmpty_iff.1 hempty]
    cases hblank : isBlank ch with
    | true => exact .inr ⟨by simp [hblank], rfl⟩
    | false => exact .inl (by simp [hblank])
  · exact .inl (by simp)

theorem Quotes.trimmedEnd (h : Quotes cs texts) : Quotes (trimEnd cs) texts := by
  induction h with
  | nil => exact .nil
  | @other ch rest texts hch _ ih =>
    rcases trimEnd_cons ch rest with hkept | ⟨hall, hrest⟩
    · rw [hkept]
      exact .other hch ih
    · rwa [hall, ← hrest]
  | @literal text rest texts _ ih =>
    have hmark := trimEnd_append_mark ('"' :: escapeLiteral text.toList) rest
    rw [List.cons_append, List.cons_append] at hmark
    rw [hmark]
    exact .literal text ih

theorem Quotes.trimmed (h : Quotes cs texts) : Quotes (trim cs) texts := h.dropWhile.trimmedEnd

/-- A text before the first line. -/
theorem Quotes.first (h : Quotes cs texts) {ls : List (List Char)} {parts : List (List String)}
    (hparts : List.Forall₂ Quotes ls parts) :
    ∃ parts', List.Forall₂ Quotes ((cs ++ ls.headD []) :: ls.tail) parts' ∧
      parts'.flatten = texts ++ parts.flatten := by
  cases hparts with
  | nil => exact ⟨[texts], .cons (by simpa using h) .nil, by simp⟩
  | @cons l part ls parts hl hrest =>
    exact ⟨(texts ++ part) :: parts, .cons (h.append hl) hrest, by simp⟩

/-- No literal is on two lines. -/
theorem Quotes.byLine (h : Quotes cs texts) :
    ∃ parts, List.Forall₂ Quotes (lines cs) parts ∧ parts.flatten = texts := by
  induction h with
  | nil => exact ⟨[], .nil, rfl⟩
  | @other ch rest texts hch _ ih =>
    obtain ⟨parts, hparts, rfl⟩ := ih
    by_cases hbreak : ch = '\n'
    · subst hbreak
      exact ⟨[] :: parts, .cons .nil hparts, rfl⟩
    · have hinner : '\n' ∉ [ch] := by simpa using Ne.symm hbreak
      have hlines := lines_append_of_notMem hinner (List.cons_ne_nil _ _) rest
      rw [List.singleton_append] at hlines
      rw [hlines]
      exact (Quotes.other hch .nil).first hparts
  | @literal text rest texts _ ih =>
    obtain ⟨parts, hparts, rfl⟩ := ih
    have hbreak : '\n' ∉ '"' :: (escapeLiteral text.toList ++ ['"']) := by
      simpa using notMem_escapeLiteral (.inl rfl) text.toList
    have hlines := lines_append_of_notMem hbreak (by simp) rest
    simp only [List.append_assoc, List.cons_append, List.nil_append] at hlines
    rw [hlines]
    obtain ⟨parts', hparts', hflat⟩ := (Quotes.literal text .nil).first hparts
    simp only [List.append_assoc, List.cons_append, List.nil_append] at hparts' hflat
    exact ⟨parts', hparts', hflat⟩

theorem quotes_join {separator : List Char} (hseparator : '"' ∉ separator) {ls : List (List Char)}
    {parts : List (List String)} (h : List.Forall₂ Quotes ls parts) :
    Quotes (join separator ls) parts.flatten := by
  induction h with
  | nil => exact .nil
  | @cons l texts ls parts hl hrest ih =>
    cases ls with
    | nil =>
      cases hrest
      simpa [join] using hl
    | cons second ls =>
      exact (hl.before hseparator).append ih

/-- **The literals of lines are those of the line that they are joined to.** -/
theorem Quotes.joined (h : Quotes cs texts) : Quotes (onOneLine cs) texts := by
  obtain ⟨parts, hparts, rfl⟩ := h.byLine
  refine quotes_join (by decide) ?_
  rw [List.forall₂_map_left_iff]
  exact hparts.imp fun _ _ hline => hline.trimmed

end

/-! ## The literals of a query -/

/-- The text of a literal. -/
def Term.texts : Term → List String
  | .literal l => [l.text]
  | .var _ | .iri _ | .blank _ => []

def Triple.texts (t : Triple) : List String := t.subject.texts ++ t.object.texts

mutual

def Expression.texts : Expression → List String
  | .term t => t.texts
  | .binary _ left right => left.texts ++ right.texts
  | .existence _ patterns => textsIn patterns

/-- The texts of the literals in a pattern, in the order in which they are printed. -/
def Pattern.texts : Pattern → List String
  | .triples triples => triples.flatMap Triple.texts
  | .bind _ value => value.texts
  | .filter condition => condition.texts
  | .union arms => textsIn arms
  | .minus patterns | .group patterns | .service _ _ patterns | .subquery _ _ patterns _ =>
    textsIn patterns

def textsIn : List Pattern → List String
  | [] => []
  | p :: ps => p.texts ++ textsIn ps

end

/-- The names have no quotation mark. -/
def unquotedRules : Rules where
  var v := '"' ∉ v.name.toList
  label label := '"' ∉ label.toList

/-! ### Names, IRIs and paths -/

theorem mark_notMem_escapeIri (cs : List Char) : '"' ∉ escapeIri cs := by
  intro hmem
  exact absurd (not_forbidden_escapeIri cs _ hmem) (by decide)

theorem mark_notMem_bracketedIri (cs : List Char) : '"' ∉ bracketedIri cs := by
  simpa [bracketedIri] using mark_notMem_escapeIri cs

theorem mark_notMem_of_isWord {word : String} (h : IsWord word) : '"' ∉ word.toList :=
  fun hmem => absurd (h _ hmem) (by decide)

theorem mark_notMem_join {separator : List Char} (hseparator : '"' ∉ separator)
    {parts : List (List Char)} (h : ∀ part ∈ parts, '"' ∉ part) : '"' ∉ join separator parts := by
  cases parts with
  | nil => exact List.not_mem_nil
  | cons part parts =>
    obtain ⟨hpart, hparts⟩ := List.forall_mem_cons.1 h
    rw [join_cons]
    simp only [List.mem_append, List.mem_flatMap, not_or, not_exists, not_and]
    exact ⟨hpart, fun other hother => ⟨hseparator, hparts other hother⟩⟩

theorem mark_notMem_writeIri {table : List Shorthand} (htable : LabelsFit table) (i : Iri) :
    '"' ∉ writeIri table i := by
  rcases writeIri_cases table i with hfull | ⟨s, hs, name, hname, -, hshort⟩
  · rw [hfull]
    exact mark_notMem_bracketedIri _
  · have hrest : '"' ∉ name :=
      fun hmem => absurd (isNameChar_of_isLocalName hname _ hmem) (by decide)
    rw [hshort]
    simpa using ⟨mark_notMem_of_isWord (htable s hs).2, hrest⟩

mutual

theorem mark_notMem_path {table : List Shorthand} (htable : LabelsFit table) :
    (path : Path) → '"' ∉ path.print table
  | .iri i => mark_notMem_writeIri htable i
  | .compound operator items => by
    have hitems := mark_notMem_paths htable items
    have hjoined : '"' ∉ join [] (printPaths table items) :=
      mark_notMem_join List.not_mem_nil hitems
    cases operator with
    | sequence =>
      have hslash : '"' ∉ ['/'] := by decide
      have hseparated := mark_notMem_join hslash hitems
      simpa [Path.print, PathOperator.symbol] using hseparated
    | alternative =>
      have hbar : '"' ∉ ['|'] := by decide
      have hseparated := mark_notMem_join hbar hitems
      simpa [Path.print, PathOperator.symbol] using hseparated
    | _ => simpa [Path.print, PathOperator.symbol] using hjoined

theorem mark_notMem_paths {table : List Shorthand} (htable : LabelsFit table) :
    (paths : List Path) → ∀ cs ∈ printPaths table paths, '"' ∉ cs
  | [] => List.forall_mem_nil _
  | path :: paths =>
    List.forall_mem_cons.2 ⟨mark_notMem_path htable path, mark_notMem_paths htable paths⟩

end

/-! ### Terms and triples -/

theorem mark_notMem_indent (depth : Nat) : '"' ∉ indent depth :=
  fun hmem => absurd (List.eq_of_mem_replicate hmem) (by decide)

theorem Quotes.onLine {cs : List Char} {texts : List String} (h : Quotes cs texts) (depth : Nat) :
    Quotes (line depth cs) texts :=
  (h.before (by decide)).after (mark_notMem_indent depth)

theorem quotes_quoted (text : String) :
    Quotes ('"' :: (escapeLiteral text.toList ++ ['"'])) [text] := .literal text .nil

theorem mark_notMem_variable {v : Variable} (h : unquotedRules.var v) : '"' ∉ v.print :=
  List.not_mem_cons_of_ne_of_not_mem (by decide) h

section

variable {table : List Shorthand} (htable : LabelsFit table)
include htable

theorem Term.quotes {t : Term} (h : t.Obeys unquotedRules) : Quotes (t.print table) t.texts := by
  cases t with
  | var v => exact quotes_of_notMem (mark_notMem_variable h)
  | iri i => exact quotes_of_notMem (mark_notMem_writeIri htable i)
  | blank label =>
    exact quotes_of_notMem (List.not_mem_cons_of_ne_of_not_mem (by decide)
      (List.not_mem_cons_of_ne_of_not_mem (by decide) h))
  | literal l =>
    obtain ⟨text, datatype⟩ := l
    cases datatype with
    | none => exact quotes_quoted text
    | some i =>
      have hiri : '"' ∉ '^' :: '^' :: writeIri table i := by
        simpa using mark_notMem_writeIri htable i
      simpa [Term.print, Literal.print, Term.texts] using (quotes_quoted text).before hiri

theorem Triple.quotes {t : Triple} (h : t.Obeys unquotedRules) :
    Quotes (t.print table) t.texts := by
  have hpredicate : '"' ∉ ' ' :: (t.predicate.print table ++ [' ']) := by
    simpa using mark_notMem_path htable t.predicate
  have hdot : '"' ∉ ['.'] := by decide
  have hobject := (Term.quotes htable h.2.2).before hdot
  have hall := (Term.quotes htable h.1).append (hobject.after hpredicate)
  simpa [Triple.print, Triple.texts] using hall

theorem quotes_triples {depth : Nat} {triples : List Triple}
    (h : ∀ t ∈ triples, t.Obeys unquotedRules) :
    Quotes (triples.flatMap fun t => line depth (t.print table))
      (triples.flatMap Triple.texts) := by
  induction triples with
  | nil => exact .nil
  | cons t triples ih =>
    obtain ⟨ht, hothers⟩ := List.forall_mem_cons.1 h
    exact ((Triple.quotes htable ht).onLine depth).append (ih hothers)

end

/-! ### Braces and keywords -/

section

variable {cs : List Char} {texts : List String}

theorem Quotes.inBraces {keyword : String} (h : Quotes cs texts) (hkeyword : '"' ∉ keyword.toList)
    (depth : Nat) : Quotes (block depth keyword cs) texts := by
  have hopen : '"' ∉ keyword.toList ++ ['\x7b'] := by simpa using hkeyword
  have hclose : Quotes ['\x7d'] [] := quotes_of_notMem (by decide)
  have hbody := h.append (hclose.onLine depth)
  rw [List.append_nil] at hbody
  exact ((quotes_of_notMem hopen).onLine depth).append hbody

/-- Lines as one line in braces. -/
theorem Quotes.inLine (h : Quotes cs texts) {keyword : List Char} (hkeyword : '"' ∉ keyword) :
    Quotes (keyword ++ '\x7b' :: ' ' :: (onOneLine cs ++ [' ', '\x7d'])) texts := by
  have hopen : '"' ∉ keyword ++ ['\x7b', ' '] := by simpa using hkeyword
  have hclose : '"' ∉ [' ', '\x7d'] := by decide
  simpa using (h.joined.before hclose).after hopen

end

/-- The first line of a query. -/
theorem mark_notMem_selectKeyword (distinct : Bool) {projection : List Variable}
    (h : ∀ v ∈ projection, unquotedRules.var v) :
    '"' ∉ (selectKeyword distinct projection).toList := by
  have hvariables : '"' ∉ join [' '] (projection.map Variable.print) :=
    mark_notMem_join (by decide) (List.forall_mem_map.2 fun v hv => mark_notMem_variable (h v hv))
  have hwords : '"' ∉ "SELECT ".toList ∧ '"' ∉ "DISTINCT ".toList ∧ '"' ∉ " WHERE ".toList := by
    decide
  cases distinct <;> simpa [selectKeyword] using hvariables

theorem mark_notMem_limitLine (depth : Nat) (limit : Option UInt64) :
    '"' ∉ limitLine depth limit := by
  cases limit with
  | none => exact List.not_mem_nil
  | some limit =>
    have hdigits : '"' ∉ Nat.toDigits 10 limit.toNat := fun hmem =>
      absurd (Nat.isDigit_of_mem_toDigits (by decide) (by decide) hmem) (by decide)
    simpa [limitLine, line] using ⟨mark_notMem_indent depth, hdigits⟩

/-- The arm of a union is a group, or a pattern that is put in braces. -/
theorem quotes_arm {table : List Shorthand} {depth : Nat} {arm : Pattern} :
    (∀ depth, Quotes (arm.print table depth) arm.texts) →
      Quotes
        (match arm with
          | .group patterns => block depth "" (printPatterns table (depth + 1) patterns)
          | arm => block depth "" (arm.print table (depth + 1))) arm.texts := by
  intro h
  split
  · have hgroup := h depth
    rwa [Pattern.print] at hgroup
  · exact (h (depth + 1)).inBraces (by decide) depth

/-! ### Patterns -/

mutual

theorem Expression.quotes {table : List Shorthand} (htable : LabelsFit table) (nested : Bool) :
    (e : Expression) → e.Obeys unquotedRules → Quotes (e.print table nested) e.texts
  | .term t, h => by
    rw [Expression.print, Expression.texts]
    exact Term.quotes htable h.1
  | .binary operator left right, h => by
    have hsymbol : '"' ∉ ' ' :: (operator.symbol.toList ++ [' ']) := by cases operator <;> decide
    have hright := (right.quotes htable true h.2).after hsymbol
    have hoperation := (left.quotes htable true h.1).append hright
    have hopen : '"' ∉ ['('] := by decide
    have hclose : '"' ∉ [')'] := by decide
    have hparentheses := (hoperation.before hclose).after hopen
    rw [Expression.print, Expression.texts]
    cases nested with
    | false => simpa using hoperation
    | true => simpa using hparentheses
  | .existence negated patterns, h => by
    have hkeyword : '"' ∉ (if negated then "NOT EXISTS ".toList else "EXISTS ".toList) := by
      cases negated <;> decide
    rw [Expression.print, Expression.texts]
    exact (quotesIn htable 0 patterns h.2.2).inLine hkeyword

/-- **The literals of a printed pattern** are its own, whatever their texts. -/
theorem Pattern.quotes {table : List Shorthand} (htable : LabelsFit table) (depth : Nat) :
    (p : Pattern) → p.Obeys unquotedRules → Quotes (p.print table depth) p.texts
  | .triples triples, h => by
    rw [Pattern.print, Pattern.texts]
    exact quotes_triples htable h.2
  | .bind target value, h => by
    have htarget : '"' ∉ " AS ".toList ++ target.print ++ [')'] := by
      simpa using mark_notMem_variable h.1
    have hopen : '"' ∉ "BIND(".toList := by decide
    have hvalue := ((value.quotes htable false h.2).before htarget).after hopen
    rw [Pattern.print, Pattern.texts]
    simpa using hvalue.onLine depth
  | .filter condition, h => by
    have hopen : '"' ∉ "FILTER(".toList := by decide
    have hclose : '"' ∉ [')'] := by decide
    have hcondition := ((condition.quotes htable false h).before hclose).after hopen
    rw [Pattern.print, Pattern.texts]
    simpa using hcondition.onLine depth
  | .union arms, h => by
    rw [Pattern.print, Pattern.texts]
    exact quotesArms htable depth true arms h.2
  | .minus patterns, h => by
    rw [Pattern.print, Pattern.texts]
    exact (quotesIn htable (depth + 1) patterns h.2.2).inBraces (by decide) depth
  | .group patterns, h => by
    rw [Pattern.print, Pattern.texts]
    exact (quotesIn htable (depth + 1) patterns h.2).inBraces (by decide) depth
  | .service endpoint silent patterns, h => by
    have hkeyword : '"' ∉ ((if silent then "SERVICE SILENT " else "SERVICE ") ++
        String.ofList (writeIri table endpoint) ++ " ").toList := by
      cases silent <;> simpa using mark_notMem_writeIri htable endpoint
    rw [Pattern.print, Pattern.texts]
    exact (quotesIn htable (depth + 1) patterns h.2.2.2).inBraces hkeyword depth
  | .subquery distinct projection patterns limit, h => by
    have hkeyword := mark_notMem_selectKeyword distinct h.2.1
    rw [Pattern.print, Pattern.texts]
    exact ((quotesIn htable (depth + 1) patterns h.2.2.2.2).inBraces hkeyword depth).before
      (mark_notMem_limitLine depth limit)

theorem quotesIn {table : List Shorthand} (htable : LabelsFit table) (depth : Nat) :
    (ps : List Pattern) → ObeyIn unquotedRules ps →
      Quotes (printPatterns table depth ps) (textsIn ps)
  | [], _ => by
    rw [printPatterns, textsIn]
    exact .nil
  | p :: ps, h => by
    rw [printPatterns, textsIn]
    exact (p.quotes htable depth h.1).append (quotesIn htable depth ps h.2)

theorem quotesArms {table : List Shorthand} (htable : LabelsFit table) (depth : Nat) (first : Bool) :
    (arms : List Pattern) → ObeyIn unquotedRules arms →
      Quotes (printArms table depth first arms) (textsIn arms)
  | [], _ => by
    rw [printArms, textsIn]
    exact .nil
  | arm :: arms, h => by
    have harm := fun d => arm.quotes htable d h.1
    have hothers := quotesArms htable depth false arms h.2
    have hunion : Quotes (if first then [] else line depth "UNION".toList) [] := by
      cases first with
      | true => exact .nil
      | false => exact (quotes_of_notMem (by decide)).onLine depth
    unfold printArms textsIn
    exact hunion.append ((quotes_arm harm).append hothers)

end

/-! ## Literals stay whole -/

/-- **No text breaks out of its literal.**  Reading a literal from its opening mark gives its text
and leaves what follows, so that the first bare mark is the closing one.  Between the marks stand
bare characters and escapes alone, and no line ends there.  Where lines are trimmed and joined a
literal is kept, and what becomes of the text around it does not hang on it; and the literals of
patterns whose existence is tested are theirs in order, on their lines and on the one line that
these are joined to, if no name has a quotation mark. -/
theorem literals_stay_whole (n : Namespaces) :
    (∀ text rest : List Char,
      readLiteral ('"' :: (escapeLiteral text ++ '"' :: rest)) = some (text, rest)) ∧
    (∀ text : List Char, (∃ pieces : List (List Char), escapeLiteral text = pieces.flatten ∧
        ∀ p ∈ pieces, StringPiece '"' p) ∧
      '\n' ∉ escapeLiteral text ∧ '\r' ∉ escapeLiteral text) ∧
    (∀ before after : List Char, ∃ front back, ∀ text,
      onOneLine (before ++ '"' :: (escapeLiteral text ++ '"' :: after)) =
        front ++ '"' :: (escapeLiteral text ++ '"' :: back)) ∧
    ∀ (negated nested : Bool) (ps : List Pattern), ObeyIn unquotedRules ps → ∀ texts,
      (Quotes (printPatterns n.shorthands 0 ps) texts ↔ texts = textsIn ps) ∧
      (Quotes ((Expression.existence negated ps).print n.shorthands nested) texts ↔
        texts = textsIn ps) := by
  refine ⟨readLiteral_escapeLiteral, fun text => ⟨exists_stringPieces text,
    notMem_escapeLiteral (.inl rfl) text, notMem_escapeLiteral (.inr rfl) text⟩, onOneLine_literal,
    fun negated nested ps hps texts => ⟨?_, ?_⟩⟩
  · exact (quotesIn (labelsFit_shorthands n) 0 ps hps).iff texts
  · have hall := (Expression.existence negated ps).quotes (labelsFit_shorthands n) nested
      ⟨trivial, trivial, hps⟩
    exact hall.iff texts

/-- A text that looks like the end of its literal, of its triple and of its block, with blanks at
the ends of its lines and a backslash at its own end. -/
def hostileText : String := " \"@en .  \r\n \x7d UNION \x7b \\\" ?s ?p \"\\n\\"

/-- A literal of that text, and a date after it. -/
def hostileBlock : List Pattern :=
  [ .triples
      [ ⟨.var ⟨"statement0"⟩, .iri ⟨"http://www.wikidata.org/prop/statement/P1"⟩,
          .literal (.plain hostileText)⟩,
        ⟨.var ⟨"statement0"⟩, .iri ⟨"http://www.wikidata.org/prop/statement/P2"⟩,
          .literal (.dateTime "+1789-07-14T00:00:00Z")⟩ ] ]

theorem literals_stay_whole_hostileBlock :
    ObeyIn unquotedRules hostileBlock ∧
    Quotes ((Expression.existence true hostileBlock).print ({} : Namespaces).shorthands false)
      [hostileText, "+1789-07-14T00:00:00Z"] := by
  have hobeys : ObeyIn unquotedRules hostileBlock := by
    simp [hostileBlock, ObeyIn, Pattern.Obeys, Triple.Obeys, Term.Obeys, Path.Obeys, unquotedRules,
      Literal.plain, Literal.dateTime]
  exact ⟨hobeys, ((literals_stay_whole {}).2.2.2 true false hostileBlock hobeys _).2.2 rfl⟩

end WikibaseQuery

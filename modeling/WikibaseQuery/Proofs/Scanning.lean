import WikibaseQuery.Proofs.Lexemes

/-!
# Reading a printed query

A query is printed in lines, and the lines of an existence test are joined to one.  `Row` is the
content of a line, `Rows` are indented lines, and both ways of writing them down are read as the same
lexemes.

* `Rows.scans`, `Rows.scans_onOneLine` — lines, and the same lines as one;
* `Expression.inline`, `Pattern.rows` — expressions stand on one line, patterns on lines of their own;
* `SelectQuery.scans` — a printed query is read as its lexemes.
-/

namespace WikibaseQuery

/-! ## Lines -/

/-- The content of a line: blank at no end, and read as the lexemes before a blank. -/
structure Row (cs : List Char) (lexemes : List (List Char)) : Prop where
  first : ∃ ch ∈ cs.head?, isBlank ch = false
  last : ∃ ch ∈ cs.getLast?, isBlank ch = false
  noBreak : '\n' ∉ cs
  scans : ∀ {rest others}, Parted rest → Scans rest others → Scans (cs ++ rest) (lexemes ++ others)

/-- Indented lines one after another, with their lexemes. -/
inductive Rows : List Char → List (List Char) → Prop
  | nil : Rows [] []
  | cons {depth : Nat} {cs rest : List Char} {lexemes others : List (List Char)} :
      Row cs lexemes → Rows rest others → Rows (line depth cs ++ rest) (lexemes ++ others)

section

variable {cs ds rest : List Char} {ls ms others : List (List Char)} {depth : Nat}

theorem Row.rows (h : Row cs ls) (depth : Nat) : Rows (line depth cs) ls := by
  have hall : Rows (line depth cs ++ []) (ls ++ []) := .cons h .nil
  simpa using hall

theorem Rows.append (h : Rows cs ls) (h' : Rows ds ms) : Rows (cs ++ ds) (ls ++ ms) := by
  induction h with
  | nil => exact h'
  | cons hrow _ ih =>
    rw [List.append_assoc, List.append_assoc]
    exact .cons hrow ih

theorem scans_indent (h : Scans rest others) : Scans (indent depth ++ rest) others := by
  unfold indent
  induction 2 * depth with
  | zero => exact h
  | succ n ih => exact scans_blank ih

theorem parted_blank (cs : List Char) : Parted (' ' :: cs) :=
  fun _ hch => .inl (Option.some.inj hch).symm

theorem parted_break (cs : List Char) : Parted ('\n' :: cs) :=
  fun _ hch => .inr (Option.some.inj hch).symm

/-- Lines are read row by row. -/
theorem Rows.scans (h : Rows cs ls) (hrest : Scans rest others) :
    Scans (cs ++ rest) (ls ++ others) := by
  induction h with
  | nil => exact hrest
  | cons hrow _ ih =>
    have hbreak := hrow.scans (parted_break _) (scans_break ih)
    simpa [line] using scans_indent hbreak

/-! ### Lines as one -/

theorem dropWhile_isBlank {cs : List Char} (h : ∃ ch ∈ cs.head?, isBlank ch = false) :
    cs.dropWhile isBlank = cs := by
  obtain ⟨ch, hch, hblank⟩ := h
  cases cs with
  | nil => rfl
  | cons first cs =>
    obtain rfl : first = ch := Option.some.inj hch
    simp [hblank]

theorem Row.trim_indent (h : Row cs ls) : trim (indent depth ++ cs) = cs := by
  have hindent : ∀ ch ∈ indent depth, isBlank ch = true := by
    intro ch hch
    obtain rfl : ch = ' ' := List.eq_of_mem_replicate hch
    decide
  have hlast : ∃ ch ∈ cs.reverse.head?, isBlank ch = false := by
    rw [List.head?_reverse]
    exact h.last
  rw [trim, List.dropWhile_append_of_pos hindent, dropWhile_isBlank h.first,
    dropWhile_isBlank hlast, List.reverse_reverse]

theorem lines_append_break (h : '\n' ∉ cs) : lines (cs ++ '\n' :: rest) = cs :: lines rest := by
  induction cs with
  | nil => simp [lines]
  | cons ch cs ih =>
    obtain ⟨hch, hcs⟩ := List.ne_and_not_mem_of_not_mem_cons h
    rw [List.cons_append, lines, if_neg hch.symm, ih hcs]

theorem lines_ne_nil (ch : Char) (cs : List Char) : lines (ch :: cs) ≠ [] := by
  rw [lines]
  split
  · simp
  · split <;> simp

/-- A line that is over comes first, and a blank after it if anything follows. -/
theorem onOneLine_append_break (h : '\n' ∉ cs) :
    onOneLine (cs ++ '\n' :: rest) = trim cs ++ if rest = [] then [] else ' ' :: onOneLine rest := by
  rw [onOneLine, lines_append_break h, List.map_cons]
  cases rest with
  | nil => simp [lines, join]
  | cons ch rest =>
    obtain ⟨second, others, hcons⟩ := List.exists_cons_of_ne_nil (lines_ne_nil ch rest)
    rw [if_neg (List.cons_ne_nil _ _), onOneLine, hcons]
    simp [join]

theorem Row.onOneLine_line (h : Row cs ls) :
    onOneLine (line depth cs ++ rest) = cs ++ if rest = [] then [] else ' ' :: onOneLine rest := by
  have hbreak : '\n' ∉ indent depth ++ cs := by
    rw [List.mem_append, not_or]
    refine ⟨fun hmem => ?_, h.noBreak⟩
    exact absurd (List.eq_of_mem_replicate hmem) (by decide)
  have hline : line depth cs ++ rest = (indent depth ++ cs) ++ '\n' :: rest := by simp [line]
  rw [hline, onOneLine_append_break hbreak, h.trim_indent]

/-- The lines are read as one line in the same way. -/
theorem Rows.scans_onOneLine (h : Rows cs ls) (hrest : Scans rest others) :
    Scans (onOneLine cs ++ ' ' :: rest) (ls ++ others) := by
  induction h with
  | nil => exact scans_blank hrest
  | @cons depth cs ds ls ms hrow hrows ih =>
    rw [hrow.onOneLine_line]
    split
    · rename_i hnil
      subst hnil
      have hms := hrow.scans (parted_blank rest) ih
      simpa using hms
    · have hms := hrow.scans (parted_blank _) (scans_blank ih)
      simpa using hms

theorem Rows.not_mem_onOneLine (h : Rows cs ls) : '\n' ∉ onOneLine cs := by
  induction h with
  | nil => simp [onOneLine, lines, join]
  | cons hrow _ ih =>
    rw [hrow.onOneLine_line, List.mem_append, not_or]
    refine ⟨hrow.noBreak, ?_⟩
    split
    · simp
    · exact List.not_mem_cons_of_ne_of_not_mem (by decide) ih

end

/-! ## Braces -/

section

variable {cs rest : List Char} {ls others : List (List Char)} {depth : Nat}

theorem scans_open (h : Scans rest others) : Scans ('\x7b' :: rest) ("\x7b".toList :: others) :=
  scans_mark (s := "\x7b") (by decide) (by decide) (by decide) h

theorem scans_close (h : Scans rest others) : Scans ('\x7d' :: rest) ("\x7d".toList :: others) :=
  scans_mark (s := "\x7d") (by decide) (by decide) (by decide) h

/-- What stands on a line before an opening brace. -/
structure Heading (cs : List Char) (ls : List (List Char)) : Prop where
  noBreak : '\n' ∉ cs
  scans : ∀ {rest others}, Scans ('\x7b' :: rest) others →
    Scans (cs ++ '\x7b' :: rest) (ls ++ others)

theorem Heading.nil : Heading [] [] := ⟨by simp, id⟩

theorem Heading.row (h : Heading cs ls) (hfirst : ∀ ch ∈ cs.head?, isBlank ch = false) :
    Row (cs ++ ['\x7b']) (ls ++ ["\x7b".toList]) := by
  refine ⟨?_, ⟨'\x7b', by simp, by decide⟩, ?_, fun {rest others} _ hrest => ?_⟩
  · cases cs with
    | nil => exact ⟨'\x7b', rfl, by decide⟩
    | cons ch cs => exact ⟨ch, rfl, hfirst ch rfl⟩
  · simpa using h.noBreak
  · have hall := h.scans (scans_open hrest)
    simpa using hall

theorem row_close : Row ['\x7d'] ["\x7d".toList] :=
  ⟨⟨'\x7d', rfl, by decide⟩, ⟨'\x7d', rfl, by decide⟩, by decide, fun _ hrest => scans_close hrest⟩

/-- Lines in braces, after the line that opens them. -/
theorem Heading.block {w : String} {body : List Char} {ms : List (List Char)}
    (h : Heading w.toList ls) (hfirst : ∀ ch ∈ w.toList.head?, isBlank ch = false)
    (hbody : Rows body ms) (depth : Nat) :
    Rows (block depth w body) (ls ++ bracedLexemes ms) := by
  have hall := ((h.row hfirst).rows depth).append (hbody.append (row_close.rows depth))
  simpa [WikibaseQuery.block, bracedLexemes] using hall

/-- A keyword before a heading, with a blank between them. -/
theorem Heading.keyword {w : String} (hw : w ∈ keywords) (h : Heading cs ls) :
    Heading (w.toList ++ ' ' :: cs) (w.toList :: ls) := by
  have hkeywords : ∀ w ∈ keywords, '\n' ∉ w.toList := by decide
  refine ⟨?_, fun {rest others} hrest => ?_⟩
  · rw [List.mem_append, not_or]
    exact ⟨hkeywords w hw, List.not_mem_cons_of_ne_of_not_mem (by decide) h.noBreak⟩
  · have hall := scans_keyword hw (ends_of_delimiter (by decide) _) (scans_blank (h.scans hrest))
    simpa using hall

/-- A term before a heading, with a blank between them. -/
theorem Heading.inline {ds : List Char} {ms : List (List Char)} (h : Heading cs ls)
    (hds : Inline ds ms) : Heading (ds ++ ' ' :: cs) (ms ++ ls) := by
  refine ⟨?_, fun {rest others} hrest => ?_⟩
  · rw [List.mem_append, not_or]
    exact ⟨hds.noBreak, List.not_mem_cons_of_ne_of_not_mem (by decide) h.noBreak⟩
  · have hall := hds.scans (ends_of_delimiter (by decide) _) (scans_blank (h.scans hrest))
    simpa using hall

theorem Heading.blank (h : Heading cs ls) : Heading (' ' :: cs) ls :=
  ⟨List.not_mem_cons_of_ne_of_not_mem (by decide) h.noBreak, fun hrest => scans_blank (h.scans hrest)⟩

theorem heading_minus : Heading "MINUS ".toList ["MINUS".toList] :=
  Heading.nil.keyword (w := "MINUS") (by decide)

theorem heading_service {table : List Shorthand} (htable : LabelsFit table) (endpoint : Iri)
    (silent : Bool) :
    Heading ((if silent then "SERVICE SILENT " else "SERVICE ") ++
        String.ofList (writeIri table endpoint) ++ " ").toList
      ("SERVICE".toList :: ((if silent then ["SILENT".toList] else []) ++
        [writeIri table endpoint])) := by
  have hendpoint := Heading.nil.inline (inline_iri htable endpoint)
  cases silent with
  | false =>
    have hall := hendpoint.keyword (w := "SERVICE") (by decide)
    simpa using hall
  | true =>
    have hall := (hendpoint.keyword (w := "SILENT") (by decide)).keyword (w := "SERVICE") (by decide)
    simpa using hall

theorem Heading.variables (h : Heading cs ls) {vs : List Variable}
    (hvs : ∀ v ∈ vs, IsPlainName v.name) :
    Heading (join [' '] (vs.map Variable.print) ++ ' ' :: cs) (vs.map Variable.print ++ ls) := by
  induction vs with
  | nil => exact h.blank
  | cons v vs ih =>
    obtain ⟨hv, hothers⟩ := List.forall_mem_cons.1 hvs
    cases vs with
    | nil => exact h.inline (inline_variable hv)
    | cons second vs =>
      have hall := (ih hothers).inline (inline_variable hv)
      simpa [join] using hall

theorem heading_select (distinct : Bool) {projection : List Variable}
    (h : ∀ v ∈ projection, IsPlainName v.name) :
    Heading (selectKeyword distinct projection).toList (selectLexemes distinct projection) := by
  have hvariables := (Heading.nil.keyword (w := "WHERE") (by decide)).variables h
  cases distinct with
  | false =>
    have hall := hvariables.keyword (w := "SELECT") (by decide)
    simpa [selectKeyword, selectLexemes] using hall
  | true =>
    have hall := (hvariables.keyword (w := "DISTINCT") (by decide)).keyword (w := "SELECT")
      (by decide)
    simpa [selectKeyword, selectLexemes] using hall

end

/-! ## Triples and expressions -/

section

variable {table : List Shorthand} {r : Rules}

theorem Triple.row (htable : LabelsFit table) (hr : r.Scannable) {t : Triple} (h : t.Obeys r) :
    Row (t.print table) (t.lexemes table) := by
  have hsubject := Term.inline htable hr h.1
  have hpredicate := Path.inline htable hr t.predicate h.2.1
  have hobject := Term.inline htable hr h.2.2
  have hprint : t.print table = (t.subject.print table ++ ' ' :: (t.predicate.print table ++
      ' ' :: t.object.print table)) ++ ['.'] := by simp [Triple.print]
  refine ⟨?_, ⟨'.', by rw [hprint, List.getLast?_concat]; rfl, by decide⟩, ?_,
    fun {rest others} hrest hothers => ?_⟩
  · obtain ⟨ch, hch, hopening⟩ := hsubject.opens
    exact ⟨ch, by rw [Triple.print, List.head?_append, hch]; rfl, (isOpening_ne hopening).2.1⟩
  · have hbreaks := And.intro hsubject.noBreak (And.intro hpredicate.noBreak hobject.noBreak)
    simpa [Triple.print] using hbreaks
  · have hdot : Scans (".".toList ++ rest) (".".toList :: others) :=
      scans_symbol_blank (by decide) (by decide) hrest hothers
    have hlast := hobject.scans hrest.ends_dot hdot
    have hmiddle := hpredicate.scans (ends_of_delimiter (by decide) _) (scans_blank hlast)
    have hall := hsubject.scans (ends_of_delimiter (by decide) _) (scans_blank hmiddle)
    simpa [Triple.print, Triple.lexemes] using hall

theorem rows_triples (htable : LabelsFit table) (hr : r.Scannable) {depth : Nat}
    {triples : List Triple} (h : ∀ t ∈ triples, t.Obeys r) :
    Rows (triples.flatMap fun t => line depth (t.print table))
      (triples.flatMap (Triple.lexemes table)) := by
  induction triples with
  | nil => exact .nil
  | cons t triples ih =>
    obtain ⟨ht, hothers⟩ := List.forall_mem_cons.1 h
    exact .cons (Triple.row htable hr ht) (ih hothers)

/-- Two operands with an operator between them. -/
theorem inline_operation (operator : Operator) {cs ds : List Char} {ls ms : List (List Char)}
    (hleft : Inline cs ls) (hright : Inline ds ms) :
    Inline (cs ++ ' ' :: (operator.symbol.toList ++ ' ' :: ds))
      (ls ++ operator.symbol.toList :: ms) := by
  have hsymbol : operator.symbol ∈ symbols ∧ '\n' ∉ operator.symbol.toList ∧
      operator.symbol ≠ "(" ∧ operator.symbol ≠ "[" := by cases operator <;> decide
  refine ⟨?_, ?_, fun {rest others} hrest hothers => ?_⟩
  · obtain ⟨ch, hch, hopening⟩ := hleft.opens
    exact ⟨ch, by rw [List.head?_append, hch]; rfl, hopening⟩
  · have hbreaks := And.intro hleft.noBreak (And.intro hsymbol.2.1 hright.noBreak)
    simpa using hbreaks
  · have hoperator := scans_symbol_blank hsymbol.1 hsymbol.2.2
      (parted_blank _) (scans_blank (hright.scans hrest hothers))
    have hall := hleft.scans (ends_of_delimiter (by decide) _) (scans_blank hoperator)
    simpa using hall

/-- A value and the variable that it is given to. -/
theorem inline_as {cs ds : List Char} {ls ms : List (List Char)} (hvalue : Inline cs ls)
    (htarget : Inline ds ms) :
    Inline (cs ++ ' ' :: ("AS".toList ++ ' ' :: ds)) (ls ++ "AS".toList :: ms) := by
  have hbreak : '\n' ∉ "AS".toList := by decide
  refine ⟨?_, ?_, fun {rest others} hrest hothers => ?_⟩
  · obtain ⟨ch, hch, hopening⟩ := hvalue.opens
    exact ⟨ch, by rw [List.head?_append, hch]; rfl, hopening⟩
  · have hbreaks := And.intro hvalue.noBreak (And.intro hbreak htarget.noBreak)
    simpa using hbreaks
  · have has := scans_keyword (w := "AS") (by decide) (ends_of_delimiter (by decide) _)
      (scans_blank (htarget.scans hrest hothers))
    have hall := hvalue.scans (ends_of_delimiter (by decide) _) (scans_blank has)
    simpa using hall

/-- A keyword and what it is applied to in parentheses. -/
theorem row_applied {w : String} (hw : w ∈ keywords) {cs : List Char} {ls : List (List Char)}
    (h : Inline cs ls) :
    Row (w.toList ++ '(' :: (cs ++ [')'])) (w.toList :: "(".toList :: (ls ++ [")".toList])) := by
  have hkeywords : ∀ w ∈ keywords, '\n' ∉ w.toList ∧ ∃ ch ∈ w.toList.head?, isBlank ch = false := by
    decide
  obtain ⟨hbreak, ch, hch, hblank⟩ := hkeywords w hw
  have hlast : w.toList ++ '(' :: (cs ++ [')']) = (w.toList ++ '(' :: cs) ++ [')'] := by simp
  refine ⟨⟨ch, by rw [List.head?_append, hch]; rfl, hblank⟩,
    ⟨')', by rw [hlast, List.getLast?_concat]; rfl, by decide⟩, ?_,
    fun {rest others} hrest hothers => ?_⟩
  · have hbreaks := And.intro hbreak h.noBreak
    simpa using hbreaks
  · have hinner := h.parenthesized.scans hrest.ends hothers
    have hall := scans_keyword hw (ends_of_delimiter (by decide) _) hinner
    simpa using hall

theorem row_limit (limit : UInt64) :
    Row ("LIMIT ".toList ++ Nat.toDigits 10 limit.toNat)
      ["LIMIT".toList, Nat.toDigits 10 limit.toNat] := by
  have hdigits : ∀ ch ∈ Nat.toDigits 10 limit.toNat, ch.isDigit = true :=
    fun ch hch => Nat.isDigit_of_mem_toDigits (by decide) (by decide) hch
  have hinteger : IsInteger (Nat.toDigits 10 limit.toNat) := ⟨Nat.toDigits_ne_nil, hdigits⟩
  have hsolid : ∀ ch : Char, ch.isDigit = true → isBlank ch = false := by
    intro ch hch
    have hrange : 0x30 ≤ ch.toNat ∧ ch.toNat ≤ 0x39 := Char.isDigit_iff_toNat.1 hch
    simp [isBlank, inRanges, blankRanges]
    omega
  refine ⟨⟨'L', rfl, by decide⟩, ?_, ?_, fun {rest others} hrest hothers => ?_⟩
  · rw [List.getLast?_append_of_ne_nil _ hinteger.1, List.getLast?_eq_some_getLast hinteger.1]
    exact ⟨_, rfl, hsolid _ (hdigits _ (List.getLast_mem _))⟩
  · have hkeyword : '\n' ∉ "LIMIT ".toList := by decide
    rw [List.mem_append, not_or]
    exact ⟨hkeyword, fun hmem => absurd (hdigits _ hmem) (by decide)⟩
  · have hlongest : IsLongest (Nat.toDigits 10 limit.toNat) rest := by
      refine longest_integer hinteger fun ch hch => ?_
      rcases hrest ch hch with rfl | rfl <;> decide
    have hlimit := Scans.lexeme (t := .number none .integer)
      ⟨.inl rfl, _, rfl, hinteger⟩ hlongest hothers
    have hall := scans_keyword (w := "LIMIT") (by decide) (ends_of_delimiter (by decide) _)
      (scans_blank hlimit)
    simpa using hall

theorem row_union : Row "UNION".toList ["UNION".toList] :=
  ⟨⟨'U', rfl, by decide⟩, ⟨'N', by decide, by decide⟩, by decide, fun hrest hothers =>
    scans_keyword (w := "UNION") (by decide) hrest.ends hothers⟩

theorem rows_limit (depth : Nat) (limit : Option UInt64) :
    Rows (limitLine depth limit) (limitLexemes limit) := by
  cases limit with
  | none => exact .nil
  | some limit => exact (row_limit limit).rows depth

/-- Lines as one line in braces, after what opens them. -/
theorem inline_braces {hs cs : List Char} {ms ls : List (List Char)} (hheading : Heading hs ms)
    (hopens : ∃ ch ∈ hs.head?, isOpening ch = true) (h : Rows cs ls) :
    Inline (hs ++ '\x7b' :: ' ' :: (onOneLine cs ++ [' ', '\x7d'])) (ms ++ bracedLexemes ls) := by
  refine ⟨?_, ?_, fun {rest others} _ hothers => ?_⟩
  · obtain ⟨ch, hch, hopening⟩ := hopens
    exact ⟨ch, by rw [List.head?_append, hch]; rfl, hopening⟩
  · have hbreaks := And.intro hheading.noBreak h.not_mem_onOneLine
    simpa using hbreaks
  · have hbraces := scans_open (scans_blank (h.scans_onOneLine (scans_close hothers)))
    have hall := hheading.scans hbraces
    simpa [bracedLexemes] using hall

/-- The lines of patterns whose existence is tested. -/
theorem inline_existence (negated : Bool) {cs : List Char} {ls : List (List Char)}
    (h : Rows cs ls) :
    Inline ((if negated then "NOT EXISTS ".toList else "EXISTS ".toList) ++
        '\x7b' :: ' ' :: (onOneLine cs ++ [' ', '\x7d']))
      ((if negated then ["NOT".toList, "EXISTS".toList] else ["EXISTS".toList]) ++
        bracedLexemes ls) := by
  have hexists := Heading.nil.keyword (w := "EXISTS") (by decide)
  cases negated with
  | false => exact inline_braces hexists ⟨'E', rfl, by decide⟩ h
  | true =>
    exact inline_braces (hexists.keyword (w := "NOT") (by decide)) ⟨'N', rfl, by decide⟩ h

end

/-! ## Patterns -/

/-- The arm of a union is a group, or a pattern that is put in braces. -/
theorem rows_arm {table : List Shorthand} {depth : Nat} {arm : Pattern} :
    (∀ depth, Rows (arm.print table depth) (arm.lexemes table)) →
      Rows
        (match arm with
          | .group patterns => block depth "" (printPatterns table (depth + 1) patterns)
          | arm => block depth "" (arm.print table (depth + 1)))
        (match arm with
          | .group patterns => bracedLexemes (lexemesIn table patterns)
          | arm => bracedLexemes (arm.lexemes table)) := by
  intro h
  split
  · have hgroup := h depth
    rwa [Pattern.print, Pattern.lexemes] at hgroup
  · exact Heading.nil.block (w := "") (by decide) (h (depth + 1)) depth

mutual

theorem Expression.inline {table : List Shorthand} {r : Rules} (htable : LabelsFit table)
    (hr : r.Scannable) (nested : Bool) :
    (e : Expression) → e.Obeys r → Inline (e.print table nested) (e.lexemes table nested)
  | .term t, h => by
    rw [Expression.print, Expression.lexemes]
    exact Term.inline htable hr h.1
  | .binary operator left right, h => by
    have hoperation := inline_operation operator (left.inline htable hr true h.1)
      (right.inline htable hr true h.2)
    rw [Expression.print, Expression.lexemes]
    cases nested with
    | false => exact hoperation
    | true => exact hoperation.parenthesized
  | .existence negated patterns, h => by
    rw [Expression.print, Expression.lexemes]
    exact inline_existence negated (rowsIn htable hr 0 patterns h.2.2)

/-- The lines of a pattern are read as its lexemes. -/
theorem Pattern.rows {table : List Shorthand} {r : Rules} (htable : LabelsFit table)
    (hr : r.Scannable) (depth : Nat) :
    (p : Pattern) → p.Obeys r → Rows (p.print table depth) (p.lexemes table)
  | .triples triples, h => by
    rw [Pattern.print, Pattern.lexemes]
    exact rows_triples htable hr h.2
  | .bind target value, h => by
    rw [Pattern.print, Pattern.lexemes]
    have hvalue := value.inline htable hr false h.2
    have htarget := inline_variable (hr.var target h.1)
    have hrow := row_applied (w := "BIND") (by decide) (inline_as hvalue htarget)
    simpa using hrow.rows depth
  | .filter condition, h => by
    rw [Pattern.print, Pattern.lexemes]
    have hcondition := condition.inline htable hr false h
    have hrow := row_applied (w := "FILTER") (by decide) hcondition
    simpa using hrow.rows depth
  | .union arms, h => by
    rw [Pattern.print, Pattern.lexemes]
    exact armRows htable hr depth true arms h.2
  | .minus patterns, h => by
    rw [Pattern.print, Pattern.lexemes]
    exact heading_minus.block (w := "MINUS ") (by decide)
      (rowsIn htable hr (depth + 1) patterns h.2.2) depth
  | .group patterns, h => by
    rw [Pattern.print, Pattern.lexemes]
    exact Heading.nil.block (w := "") (by decide)
      (rowsIn htable hr (depth + 1) patterns h.2) depth
  | .service endpoint silent patterns, h => by
    rw [Pattern.print, Pattern.lexemes]
    have hrows := rowsIn htable hr (depth + 1) patterns h.2.2.2
    have hfirst : ∀ ch ∈ ((if silent then "SERVICE SILENT " else "SERVICE ") ++
        String.ofList (writeIri table endpoint) ++ " ").toList.head?, isBlank ch = false := by
      have hletter : isBlank 'S' = false := by decide
      cases silent <;> simp [hletter]
    have hall := (heading_service htable endpoint silent).block hfirst hrows depth
    rwa [List.cons_append, List.append_assoc] at hall
  | .subquery distinct projection patterns limit, h => by
    rw [Pattern.print, Pattern.lexemes]
    have hrows := rowsIn htable hr (depth + 1) patterns h.2.2.2.2
    have hheading := heading_select distinct fun v hv => hr.var v (h.2.1 v hv)
    have hfirst : ∀ ch ∈ (selectKeyword distinct projection).toList.head?, isBlank ch = false := by
      have hletter : isBlank 'S' = false := by decide
      simp [selectKeyword, hletter]
    have hall := (hheading.block hfirst hrows depth).append (rows_limit depth limit)
    rwa [List.append_assoc] at hall

theorem rowsIn {table : List Shorthand} {r : Rules} (htable : LabelsFit table)
    (hr : r.Scannable) (depth : Nat) :
    (ps : List Pattern) → ObeyIn r ps → Rows (printPatterns table depth ps) (lexemesIn table ps)
  | [], _ => by
    rw [printPatterns, lexemesIn]
    exact .nil
  | p :: ps, h => by
    rw [printPatterns, lexemesIn]
    exact (p.rows htable hr depth h.1).append (rowsIn htable hr depth ps h.2)

theorem armRows {table : List Shorthand} {r : Rules} (htable : LabelsFit table)
    (hr : r.Scannable) (depth : Nat) (first : Bool) :
    (arms : List Pattern) → ObeyIn r arms →
      Rows (printArms table depth first arms) (armLexemes table first arms)
  | [], _ => by
    rw [printArms, armLexemes]
    exact .nil
  | arm :: arms, h => by
    have harm := fun d => arm.rows htable hr d h.1
    have hothers := armRows htable hr depth false arms h.2
    have hunion : Rows (if first then [] else line depth "UNION".toList)
        (if first then [] else ["UNION".toList]) := by
      cases first with
      | true => exact .nil
      | false => exact row_union.rows depth
    unfold printArms armLexemes
    exact hunion.append ((rows_arm harm).append hothers)

end

/-! ## Queries -/

theorem row_declaration {s : Shorthand} (hne : s.label ≠ "") (hlabel : IsWord s.label) :
    Row ("PREFIX ".toList ++ s.label.toList ++ ": ".toList ++ bracketedIri s.base.toList)
      ["PREFIX".toList, s.label.toList ++ [':'], bracketedIri s.base.toList] := by
  have hname : Inline (s.label.toList ++ [':']) [s.label.toList ++ [':']] :=
    inline_shortened hne hlabel rfl
  have hbase := inline_bracketedIri s.base.toList
  have hkeyword : '\n' ∉ "PREFIX".toList := by decide
  have hclosed : "PREFIX ".toList ++ s.label.toList ++ ": ".toList ++ bracketedIri s.base.toList =
      ("PREFIX ".toList ++ s.label.toList ++ ": ".toList ++ '<' :: escapeIri s.base.toList) ++
        ['>'] := by rw [bracketedIri, List.append_assoc _ _ ['>'], List.cons_append]
  refine ⟨⟨'P', rfl, by decide⟩, ⟨'>', by rw [hclosed, List.getLast?_concat]; rfl, by decide⟩, ?_,
    fun {rest others} hrest hothers => ?_⟩
  · have hbreaks := And.intro hkeyword (And.intro hname.noBreak hbase.noBreak)
    simpa using hbreaks
  · have hlast := hname.scans (ends_of_delimiter (by decide) _)
      (scans_blank (hbase.scans hrest.ends hothers))
    have hall := scans_keyword (w := "PREFIX") (by decide) (ends_of_delimiter (by decide) _)
      (scans_blank hlast)
    simpa using hall

theorem rows_declarations {table : List Shorthand} (htable : LabelsFit table) :
    Rows (declarations table) (declarationLexemes table) := by
  induction table with
  | nil => exact .nil
  | cons s table ih =>
    obtain ⟨⟨hne, hlabel⟩, hothers⟩ := List.forall_mem_cons.1 htable
    exact .cons (row_declaration hne hlabel) (ih hothers)

/-- **A printed query is read as its lexemes.** -/
theorem SelectQuery.scans {table : List Shorthand} {r : Rules} {q : SelectQuery}
    (htable : LabelsFit table) (hr : r.Scannable) (declare : Bool) (h : q.Obeys r) :
    Scans (q.print table declare) (q.lexemes table declare) := by
  have hquery := q.toPattern.rows htable hr 0 h
  have hall : Rows (q.print table declare) (q.lexemes table declare) := by
    unfold SelectQuery.print SelectQuery.lexemes
    cases declare with
    | false => exact hquery
    | true => exact (rows_declarations htable).append hquery
  simpa using hall.scans .done

end WikibaseQuery

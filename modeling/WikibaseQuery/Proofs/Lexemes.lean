import WikibaseQuery.Proofs.Everywhere
import WikibaseQuery.Proofs.Longest
import WikibaseQuery.Sparql.Printer

/-!
# The lexemes of a query

`SelectQuery.lexemes` lists the lexemes of a query without the blanks and lines of its text.  Terms
and paths are printed on one line, and `Inline` says that such a text is read as its lexemes,
whatever ends it.

* `writeIri_cases`, `matches_writeIri` — an IRI is one lexeme, in full or by a shorthand;
* `inline_literal` — so is a text, with its datatype after it;
* `Term.inline`, `Path.inline` — terms and paths are read as their lexemes.
-/

namespace WikibaseQuery

/-! ## Lexemes -/

section

variable (table : List Shorthand)

def Literal.lexemes (l : Literal) : List (List Char) :=
  ('"' :: (escapeLiteral l.text.toList ++ ['"'])) ::
    match l.datatype with
    | none => []
    | some datatype => ["^^".toList, writeIri table datatype]

def Term.lexemes : Term → List (List Char)
  | .var v => [v.print]
  | .iri i => [writeIri table i]
  | .blank label => ['_' :: ':' :: label.toList]
  | .literal l => l.lexemes table

mutual

def Path.lexemes : Path → List (List Char)
  | .iri i => [writeIri table i]
  | .compound operator items =>
    "(".toList :: ((match operator with
      | .sequence | .alternative => joinedLexemes [[operator.symbol]] items
      | .inverse => [operator.symbol] :: joinedLexemes [] items
      | .zeroOrMore | .oneOrMore | .zeroOrOne => joinedLexemes [] items ++ [[operator.symbol]]) ++
      [")".toList])

/-- The lexemes of paths with a separator between each two. -/
def joinedLexemes (separator : List (List Char)) : List Path → List (List Char)
  | [] => []
  | path :: paths => path.lexemes ++ followingLexemes separator paths

/-- The lexemes of paths with a separator before each. -/
def followingLexemes (separator : List (List Char)) : List Path → List (List Char)
  | [] => []
  | path :: paths => separator ++ (path.lexemes ++ followingLexemes separator paths)

end

def Triple.lexemes (t : Triple) : List (List Char) :=
  t.subject.lexemes table ++ (t.predicate.lexemes table ++ (t.object.lexemes table ++ [".".toList]))

/-- The lexemes from the limit on, if there is one. -/
def limitLexemes : Option UInt64 → List (List Char)
  | none => []
  | some limit => ["LIMIT".toList, Nat.toDigits 10 limit.toNat]

/-- Lexemes in braces. -/
def bracedLexemes (lexemes : List (List Char)) : List (List Char) :=
  "\x7b".toList :: (lexemes ++ ["\x7d".toList])

/-- The lexemes of a query up to its braces. -/
def selectLexemes (distinct : Bool) (projection : List Variable) : List (List Char) :=
  "SELECT".toList :: ((if distinct then ["DISTINCT".toList] else []) ++
    (projection.map Variable.print ++ ["WHERE".toList]))

mutual

def Expression.lexemes (nested : Bool) : Expression → List (List Char)
  | .term t => t.lexemes table
  | .binary operator left right =>
    let operation := left.lexemes true ++ operator.symbol.toList :: right.lexemes true
    if nested then "(".toList :: (operation ++ [")".toList]) else operation
  | .existence negated patterns =>
    (if negated then ["NOT".toList, "EXISTS".toList] else ["EXISTS".toList]) ++
      bracedLexemes (lexemesIn patterns)

def Pattern.lexemes : Pattern → List (List Char)
  | .triples triples => triples.flatMap (Triple.lexemes table)
  | .bind target value =>
    "BIND".toList :: "(".toList :: (value.lexemes false ++
      ["AS".toList, target.print, ")".toList])
  | .filter condition =>
    "FILTER".toList :: "(".toList :: (condition.lexemes false ++ [")".toList])
  | .union arms => armLexemes true arms
  | .minus patterns => "MINUS".toList :: bracedLexemes (lexemesIn patterns)
  | .group patterns => bracedLexemes (lexemesIn patterns)
  | .service endpoint silent patterns =>
    "SERVICE".toList :: ((if silent then ["SILENT".toList] else []) ++
      writeIri table endpoint :: bracedLexemes (lexemesIn patterns))
  | .subquery distinct projection patterns limit =>
    selectLexemes distinct projection ++ (bracedLexemes (lexemesIn patterns) ++ limitLexemes limit)

/-- The lexemes of patterns one after another. -/
def lexemesIn : List Pattern → List (List Char)
  | [] => []
  | pattern :: patterns => pattern.lexemes ++ lexemesIn patterns

/-- The lexemes of the arms of a union. -/
def armLexemes (first : Bool) : List Pattern → List (List Char)
  | [] => []
  | arm :: arms =>
    (if first then [] else ["UNION".toList]) ++
      ((match arm with
        | .group patterns => bracedLexemes (lexemesIn patterns)
        | arm => bracedLexemes arm.lexemes) ++ armLexemes false arms)

end

end

/-- The lexemes that declare the shorthands. -/
def declarationLexemes (table : List Shorthand) : List (List Char) :=
  table.flatMap fun s => ["PREFIX".toList, s.label.toList ++ [':'], bracketedIri s.base.toList]

/-- The lexemes of a query, after those of the declarations where they are asked for. -/
def SelectQuery.lexemes (table : List Shorthand) (declare : Bool) (q : SelectQuery) :
    List (List Char) :=
  (if declare then declarationLexemes table else []) ++ q.toPattern.lexemes table

/-! ## What follows a lexeme -/

/-- The text does not go on with a name or another quotation mark. -/
def Ends (rest : List Char) : Prop := Delimited rest ∧ rest.head? ≠ some '"'

/-- The characters that end the lexemes before them. -/
def delimiters : List Char := [' ', '\n', '(', ')', '/', '|', '*', '+', '?', '^']

theorem ends_of_delimiter {ch : Char} (h : ch ∈ delimiters) (rest : List Char) :
    Ends (ch :: rest) := by
  have hall : ∀ ch ∈ delimiters, isNameMore ch = false ∧ ch ≠ '"' := by decide
  constructor
  · intro ch' more heq hmore
    obtain ⟨rfl, -⟩ := List.cons.inj heq
    exact absurd hmore (by simp [(hall ch h).1])
  · simpa using (hall ch h).2

/-- A blank, or the end of the text, follows. -/
def Parted (rest : List Char) : Prop := ∀ ch ∈ rest.head?, ch = ' ' ∨ ch = '\n'

theorem Parted.ends {rest : List Char} (h : Parted rest) : Ends rest := by
  cases rest with
  | nil => exact ⟨fun ch more heq => absurd heq (by simp), by simp⟩
  | cons ch rest =>
    rcases h ch rfl with rfl | rfl <;> exact ends_of_delimiter (by decide) rest

theorem Parted.ends_dot {rest : List Char} (h : Parted rest) : Ends ('.' :: rest) := by
  constructor
  · intro ch more heq hmore
    obtain ⟨rfl, rfl⟩ := List.cons.inj heq
    refine ⟨rfl, fun next hnext => ?_⟩
    rcases h next hnext with rfl | rfl <;> decide
  · simp

/-! ## Steps of reading -/

section

variable {rest : List Char} {lexemes : List (List Char)}

theorem scans_blank (h : Scans rest lexemes) : Scans (' ' :: rest) lexemes :=
  .space (by decide) h

theorem scans_break (h : Scans rest lexemes) : Scans ('\n' :: rest) lexemes :=
  .space (by decide) h

/-- The keywords of queries. -/
def keywords : List String :=
  [ "PREFIX", "SELECT", "DISTINCT", "WHERE", "LIMIT", "BIND", "AS", "FILTER", "UNION", "MINUS",
    "SERVICE", "SILENT", "NOT", "EXISTS" ]

theorem matches_keyword {w : String} (hw : w ∈ keywords) : (Terminal.word w).Matches w.toList := by
  have hall : ∀ w ∈ keywords, (∃ ch ∈ w.toList.head?, ch.isAlpha = true) ∧
      ∀ ch ∈ w.toList, (ch.isAlphanum || ch = '_') = true := by decide
  exact ⟨.inl rfl, hall w hw⟩

theorem scans_keyword {w : String} (hw : w ∈ keywords) (hrest : Ends rest)
    (h : Scans rest lexemes) : Scans (w.toList ++ rest) (w.toList :: lexemes) := by
  have hplain : ∀ w ∈ keywords, ∀ ch ∈ w.toList, ch ≠ '%' ∧ ch ≠ '\\' := by decide
  have hmatches := matches_keyword hw
  exact .lexeme hmatches (longest_of_delimited hmatches.2.1 (hplain w hw) hrest.1) h

/-- A symbol, where the next character makes nothing else of it. -/
theorem scans_symbol {s : String} (hs : s ∈ symbols)
    (hnext : ∀ ch ∈ rest.head?, ch ∉ symbolExtensions s ∧
      ∀ first ∈ s.toList.head?, joins first ch = false)
    (h : Scans rest lexemes) : Scans (s.toList ++ rest) (s.toList :: lexemes) :=
  .lexeme (t := .symbol s) ⟨hs, rfl⟩
    (longest_symbol hs (fun ch hch => (hnext ch hch).1) fun ch hch => (hnext ch hch).2) h

/-- The symbols that nothing can make another lexeme of. -/
theorem scans_mark {s : String} (hs : s ∈ symbols) (hextends : symbolExtensions s = [])
    (hjoins : ∀ first ∈ s.toList.head?, first ∉ ['(', '[', '.', '+', '-', '?', '<'])
    (h : Scans rest lexemes) : Scans (s.toList ++ rest) (s.toList :: lexemes) := by
  refine scans_symbol hs (fun ch _ => ⟨by simp [hextends], fun first hfirst => ?_⟩) h
  have hmem := hjoins first hfirst
  unfold joins
  split <;> first | rfl | exact absurd (by decide) hmem

/-- A symbol before a blank. -/
theorem scans_symbol_blank {s : String} (hs : s ∈ symbols) (hbracket : s ≠ "(" ∧ s ≠ "[")
    (hrest : Parted rest) (h : Scans rest lexemes) :
    Scans (s.toList ++ rest) (s.toList :: lexemes) := by
  have hextensions : ∀ s ∈ symbols, ∀ ch ∈ [' ', '\n'], ch ∉ symbolExtensions s := by decide
  have hjoin : ∀ s ∈ symbols, s ≠ "(" → s ≠ "[" → ∀ ch ∈ [' ', '\n'],
      ∀ first ∈ s.toList.head?, joins first ch = false := by decide
  refine scans_symbol hs (fun ch hch => ?_) h
  have hmem : ch ∈ [' ', '\n'] := by simpa using hrest ch hch
  exact ⟨hextensions s hs ch hmem, hjoin s hs hbracket.1 hbracket.2 ch hmem⟩

end

/-! ## Terms -/

/-- The characters that terms, paths and expressions begin with. -/
def isOpening (ch : Char) : Bool := ch.isAlpha || ['?', '<', '_', '"', '('].contains ch

theorem isOpening_ne {ch : Char} (h : isOpening ch = true) :
    isSpace ch = false ∧ isBlank ch = false ∧ ch ∉ [')', '^', '|', '\n'] := by
  have hall : ∀ ch ∈ ['?', '<', '_', '"', '('],
      isSpace ch = false ∧ isBlank ch = false ∧ ch ∉ [')', '^', '|', '\n'] := by decide
  rcases Bool.or_eq_true_iff.1 h with halpha | hmem
  · have hrange := isAlpha_iff_toNat.1 halpha
    have hne : ∀ c : Char, c.isAlpha = false → ch ≠ c := fun c hc => ne_of_isAlpha halpha hc
    refine ⟨?_, ?_, ?_⟩
    · simp [isSpace, hne ' ' (by decide), hne '\t' (by decide), hne '\r' (by decide),
        hne '\n' (by decide)]
    · simp [isBlank, inRanges, blankRanges]
      omega
    · simp [hne ')' (by decide), hne '^' (by decide), hne '|' (by decide), hne '\n' (by decide)]
  · exact hall ch (by simpa using hmem)

/-- A text on one line that is read as the lexemes, whatever ends it. -/
structure Inline (cs : List Char) (lexemes : List (List Char)) : Prop where
  opens : ∃ ch ∈ cs.head?, isOpening ch = true
  noBreak : '\n' ∉ cs
  scans : ∀ {rest others}, Ends rest → Scans rest others → Scans (cs ++ rest) (lexemes ++ others)

/-- A text that is one lexeme. -/
theorem Inline.lexeme {t : Terminal} {cs : List Char} (hmatches : t.Matches cs)
    (hopens : ∃ ch ∈ cs.head?, isOpening ch = true) (hbreak : '\n' ∉ cs)
    (hlongest : ∀ rest, Ends rest → IsLongest cs rest) : Inline cs [cs] :=
  ⟨hopens, hbreak, fun hrest h => .lexeme hmatches (hlongest _ hrest) h⟩

/-- A symbol before what is opened. -/
theorem scans_symbol_opening {s : String} (hs : s ∈ ["(", "^", "|", "/"]) {cs rest : List Char}
    {lexemes : List (List Char)} (hopens : ∃ ch ∈ cs.head?, isOpening ch = true)
    (h : Scans (cs ++ rest) lexemes) :
    Scans (s.toList ++ (cs ++ rest)) (s.toList :: lexemes) := by
  have hsymbols : ∀ s ∈ ["(", "^", "|", "/"], s ∈ symbols := by decide
  have hextensions : ∀ s ∈ ["(", "^", "|", "/"], ∀ c ∈ symbolExtensions s, c ∈ ['^', '|'] := by
    decide
  have hfirst : ∀ s ∈ ["(", "^", "|", "/"], ∀ first ∈ s.toList.head?,
      first ∈ ['(', '^', '|', '/'] := by decide
  refine scans_symbol (hsymbols s hs) (fun ch hch => ?_) h
  obtain ⟨opening, hopening, htrue⟩ := hopens
  have heq : ch = opening := by
    cases cs with
    | nil => exact absurd hopening (by simp)
    | cons c cs => exact (Option.some.inj hch).symm.trans (Option.some.inj hopening)
  subst heq
  obtain ⟨hspace, -, hother⟩ := isOpening_ne htrue
  refine ⟨fun hmem => ?_, fun first hmem => ?_⟩
  · have hmarks := hextensions s hs ch hmem
    simp at hmarks hother
    tauto
  · have hmarks := hfirst s hs first hmem
    simp at hmarks hother
    rcases hmarks with rfl | rfl | rfl | rfl <;> simp [joins, hspace, hother]

/-- A text in parentheses. -/
theorem Inline.parenthesized {cs : List Char} {lexemes : List (List Char)}
    (h : Inline cs lexemes) :
    Inline ('(' :: (cs ++ [')'])) ("(".toList :: (lexemes ++ [")".toList])) := by
  refine ⟨⟨'(', rfl, by decide⟩, ?_, fun {rest others} _ hothers => ?_⟩
  · simpa using h.noBreak
  · have hclose : Scans (')' :: rest) (")".toList :: others) :=
      scans_mark (s := ")") (by decide) (by decide) (by decide) hothers
    have hinner := h.scans (ends_of_delimiter (by decide) rest) hclose
    have hopen := scans_symbol_opening (s := "(") (by decide) h.opens hinner
    simpa using hopen

theorem isNameInitial_of_isAlphanum {ch : Char} (h : (ch.isAlphanum || ch = '_') = true) :
    isNameInitial ch = true := by
  rcases Bool.or_eq_true_iff.1 h with h | h
  · rcases Bool.or_eq_true_iff.1 h with halpha | hdigit
    · simp [isNameInitial, isNameLetter_of_isAlpha halpha]
    · simp [isNameInitial, hdigit]
  · simp_all [isNameInitial]

/-- Letters, digits and underscores alone. -/
def IsPlain (text : String) : Prop := ∀ ch ∈ text.toList, (ch.isAlphanum || ch = '_') = true

/-- The names that need no care. -/
def IsPlainName (name : String) : Prop := name ≠ "" ∧ IsPlain name

instance (text : String) : Decidable (IsPlain text) :=
  decidable_of_iff (text.toList.all (fun ch => ch.isAlphanum || ch = '_') = true) List.all_eq_true

instance (name : String) : Decidable (IsPlainName name) := inferInstanceAs (Decidable (_ ∧ _))

theorem IsPlainName.facts {name : String} (h : IsPlainName name) :
    name.toList ≠ [] ∧ (∃ ch ∈ name.toList.head?, isNameInitial ch = true) ∧
      ∀ ch ∈ name.toList, isVariableChar ch = true := by
  have hne : name.toList ≠ [] := by simpa using h.1
  have hchars : ∀ ch ∈ name.toList, isVariableChar ch = true :=
    fun ch hch => isVariableChar_of_isAlphanum (h.2 ch hch)
  refine ⟨hne, ?_, hchars⟩
  obtain ⟨first, others, hcons⟩ := List.exists_cons_of_ne_nil hne
  refine ⟨first, by rw [hcons]; rfl, ?_⟩
  exact isNameInitial_of_isAlphanum (h.2 first (by rw [hcons]; exact List.mem_cons_self ..))

/-- Characters of names are neither blanks nor escapes. -/
theorem isVariableChar_ne {ch : Char} (h : isVariableChar ch = true) :
    ch ≠ '\n' ∧ ch ≠ '%' ∧ ch ≠ '\\' := by
  refine ⟨?_, ?_, ?_⟩ <;> rintro rfl <;> exact absurd h (by decide)

theorem matches_variable {v : Variable} (h : IsPlainName v.name) :
    (Terminal.var '?').Matches v.print := by
  obtain ⟨-, hinitial, hchars⟩ := h.facts
  exact ⟨.inl rfl, v.name.toList, rfl, hinitial, hchars⟩

theorem inline_variable {v : Variable} (h : IsPlainName v.name) : Inline v.print [v.print] := by
  obtain ⟨hne, -, hchars⟩ := h.facts
  refine .lexeme (matches_variable h) ⟨'?', rfl, by decide⟩ ?_ fun rest hrest =>
    longest_variable hne hchars hrest.1
  exact List.not_mem_cons_of_ne_of_not_mem (by decide)
    fun hmem => (isVariableChar_ne (hchars _ hmem)).1 rfl

theorem matches_label {label : String} (h : IsPlainName label) :
    Terminal.blankLabel.Matches ('_' :: ':' :: label.toList) := by
  obtain ⟨-, hinitial, hchars⟩ := h.facts
  exact ⟨label.toList, rfl, hinitial, fun ch hch => isLabelChar_of_isVariableChar (hchars ch hch),
    getLast?_ne_dot hchars⟩

theorem inline_label {label : String} (h : IsPlainName label) :
    Inline ('_' :: ':' :: label.toList) ['_' :: ':' :: label.toList] := by
  obtain ⟨-, -, hchars⟩ := h.facts
  refine .lexeme (matches_label h) ⟨'_', rfl, by decide⟩ ?_ fun rest hrest =>
    longest_label (fun ch hch => (isVariableChar_ne (hchars ch hch)).2) hrest.1
  refine List.not_mem_cons_of_ne_of_not_mem (by decide)
    (List.not_mem_cons_of_ne_of_not_mem (by decide) fun hmem => ?_)
  exact (isVariableChar_ne (hchars _ hmem)).1 rfl

/-! ### IRIs -/

theorem isIriChar_of_not_forbidden {ch : Char} (h : isForbiddenInIri ch = false) :
    isIriChar ch = true := by
  have hparts : ¬ ch ≤ ' ' ∧ ch ∉ ['<', '>', '"', '\x7b', '\x7d', '|', '^', '\x60', '\\'] := by
    simp only [isForbiddenInIri, Bool.or_eq_false_iff, decide_eq_false_iff_not] at h
    exact ⟨h.1.1, h.2⟩
  have hgt : 0x20 < ch.toNat := by
    have hlt : ' ' < ch := Char.not_le.1 hparts.1
    exact hlt
  simpa [isIriChar, hgt] using hparts.2

theorem toNat_lt_of_forbidden {ch : Char} (h : isForbiddenInIri ch = true) : ch.toNat < 128 := by
  have hall : ∀ ch ∈ ['\x7f', '<', '>', '"', '\x7b', '\x7d', '|', '^', '\x60', '\\'],
      ch.toNat < 128 := by decide
  simp only [isForbiddenInIri, Bool.or_eq_true, decide_eq_true_eq] at h
  rcases h with (hle | rfl) | hmem
  · have hnat : ch.toNat ≤ 0x20 := hle
    omega
  · decide
  · exact hall ch (List.mem_cons_of_mem _ hmem)

/-- Escaping leaves nothing to escape. -/
theorem not_forbidden_escapeIri (cs : List Char) :
    ∀ ch ∈ escapeIri cs, isForbiddenInIri ch = false := by
  refine List.forall_mem_flatMap.2 fun c _ => ?_
  have hdigits : ∀ k < 16, isForbiddenInIri (Nat.digitChar k).toUpper = false := by decide
  split
  · rename_i hforbidden
    have hbound := toNat_lt_of_forbidden hforbidden
    simp only [percentEscape, List.forall_mem_cons]
    exact ⟨by decide, hdigits _ (by omega), hdigits _ (by omega), by simp⟩
  · rename_i hallowed
    exact List.forall_mem_singleton.2 (by simpa using hallowed)

theorem isIriChar_escapeIri (cs : List Char) : ∀ ch ∈ escapeIri cs, isIriChar ch = true :=
  fun ch hch => isIriChar_of_not_forbidden (not_forbidden_escapeIri cs ch hch)

theorem matches_bracketedIri (cs : List Char) : Terminal.iriRef.Matches (bracketedIri cs) :=
  ⟨escapeIri cs, rfl, isIriChar_escapeIri cs⟩

theorem inline_bracketedIri (cs : List Char) : Inline (bracketedIri cs) [bracketedIri cs] := by
  have hchars := isIriChar_escapeIri cs
  refine .lexeme (matches_bracketedIri cs) ⟨'<', rfl, by decide⟩ ?_ fun rest _ =>
    longest_bracketed hchars rest
  intro hmem
  rcases List.mem_cons.1 hmem with heq | hmem
  · exact absurd heq (by decide)
  · rcases List.mem_append.1 hmem with hmem | hmem
    · exact absurd (hchars _ hmem) (by decide)
    · exact absurd (List.mem_singleton.1 hmem) (by decide)

/-- The labels of a table are words. -/
def LabelsFit (table : List Shorthand) : Prop := ∀ s ∈ table, s.label ≠ "" ∧ IsWord s.label

theorem map_label_shorthands (n : Namespaces) : n.shorthands.map Shorthand.label =
    ["wd", "wdt", "p", "ps", "psv", "psn", "wikibase", "prov", "bd", "hint", "xsd"] := rfl

theorem labelsFit_shorthands (n : Namespaces) : LabelsFit n.shorthands := by
  have hall : ∀ label ∈ n.shorthands.map Shorthand.label, label ≠ "" ∧ IsWord label := by
    rw [map_label_shorthands]
    decide
  exact fun s hs => hall s.label (List.mem_map_of_mem hs)

/-- The shorthand that is chosen stands in the table and fits. -/
theorem longestFit_mem {table : List Shorthand} {cs : List Char} {s : Shorthand}
    (h : longestFit table cs = some s) : s ∈ table ∧ s.fits cs = true := by
  have hfold : ∀ (table : List Shorthand) (best : Option Shorthand),
      table.foldl (fun best s => if s.fits cs && best.all (fun b => b.base.length ≤ s.base.length)
        then some s else best) best = some s →
      best = some s ∨ s ∈ table ∧ s.fits cs = true := by
    intro table
    induction table with
    | nil => exact fun best hbest => .inl hbest
    | cons first others ih =>
      intro best hbest
      rcases ih _ hbest with hfirst | ⟨hs, hfits⟩
      · dsimp only at hfirst
        split at hfirst
        · rename_i hfit
          obtain rfl : first = s := Option.some.inj hfirst
          exact .inr ⟨List.mem_cons_self .., (Bool.and_eq_true_iff.1 hfit).1⟩
        · exact .inl hfirst
      · exact .inr ⟨List.mem_cons_of_mem _ hs, hfits⟩
  rcases hfold table none h with hnone | hmem
  · exact absurd hnone (by simp)
  · exact hmem

theorem isLabelChar_of_isNameChar {ch : Char} (h : isNameChar ch = true) :
    isLabelChar ch = true := by
  simp only [isNameChar, isNameEnd, Bool.or_eq_true, decide_eq_true_eq] at h
  rcases h with (hstart | rfl) | rfl
  · exact isLabelChar_of_isVariableChar (isVariableChar_of_isAlphanum hstart)
  · decide
  · decide

theorem isNameChar_of_isLocalName {cs : List Char} (h : isLocalName cs = true) :
    ∀ ch ∈ cs, isNameChar ch = true := by
  cases cs with
  | nil => simp
  | cons first rest =>
    simp only [isLocalName, Bool.and_eq_true, List.all_eq_true] at h
    exact List.forall_mem_cons.2 ⟨by simp [isNameChar, isNameEnd, h.1.1], h.1.2⟩

theorem isLocalName_chars {cs : List Char} (h : isLocalName cs = true) :
    (∀ ch ∈ cs, isLabelChar ch = true ∧ ch ≠ '%' ∧ ch ≠ '\\' ∧ ch ≠ '\n') ∧
      cs.getLast? ≠ some '.' ∧ ∀ ch ∈ cs.head?, isNameInitial ch = true := by
  have hchar : ∀ ch, isNameChar ch = true →
      isLabelChar ch = true ∧ ch ≠ '%' ∧ ch ≠ '\\' ∧ ch ≠ '\n' := by
    intro ch hch
    refine ⟨isLabelChar_of_isNameChar hch, ?_, ?_, ?_⟩ <;> rintro rfl <;>
      exact absurd hch (by decide)
  refine ⟨fun ch hch => hchar ch (isNameChar_of_isLocalName h ch hch), ?_⟩
  cases cs with
  | nil => simp
  | cons first rest =>
    simp only [isLocalName, Bool.and_eq_true] at h
    obtain ⟨⟨hfirst, -⟩, hlast⟩ := h
    constructor
    · rw [List.getLast?_cons]
      cases hr : rest.getLast? with
      | none =>
        rintro heq
        obtain rfl : first = '.' := by simpa using heq
        exact absurd hfirst (by decide)
      | some last =>
        rintro heq
        obtain rfl : last = '.' := by simpa using heq
        rw [hr] at hlast
        exact absurd hlast (by decide)
    · rintro ch hch
      obtain rfl : first = ch := Option.some.inj hch
      exact isNameInitial_of_isAlphanum hfirst

/-- A local name is one in SPARQL too. -/
theorem isLocal_of_isLocalName {cs : List Char} (h : isLocalName cs = true) (hne : cs ≠ []) :
    IsLocal cs := by
  obtain ⟨hchars, hlast, hfirst⟩ := isLocalName_chars h
  refine ⟨cs.map fun ch => [ch], by simp [← List.flatMap_def], ?_, by simpa using hne, ?_,
    getLast?_singletons_ne hlast⟩
  · exact List.forall_mem_map.2 fun ch hch => .char (by simp [(hchars ch hch).1])
  · intro ch hch
    cases cs with
    | nil => exact absurd rfl hne
    | cons first rest =>
      obtain rfl : first = ch := by simpa using hch
      simp [hfirst first rfl]

/-- An IRI is written in full or shortened by a label of the table. -/
theorem writeIri_cases (table : List Shorthand) (iri : Iri) :
    writeIri table iri = bracketedIri iri.text.toList ∨
      ∃ s ∈ table, ∃ name, isLocalName name = true ∧
        iri.text.toList = s.base.toList ++ name ∧
        writeIri table iri = s.label.toList ++ ':' :: name := by
  unfold writeIri
  dsimp only
  split
  · exact .inl rfl
  · rename_i s hs
    obtain ⟨hmem, hfits⟩ := longestFit_mem hs
    split
    · rename_i hname
      refine .inr ⟨s, hmem, _, hname, ?_, rfl⟩
      have hprefix : s.base.toList <+: iri.text.toList := by
        simpa [Shorthand.fits] using (Bool.and_eq_true_iff.1 hfits).2
      obtain ⟨rest, hrest⟩ := hprefix
      rw [← hrest, ← String.length_toList, List.drop_left]
    · exact .inl rfl

theorem isPrefix_of_isWord {label : String} (hne : label ≠ "") (h : IsWord label) :
    IsPrefix label.toList := by
  have hchars : ∀ ch ∈ label.toList, isVariableChar ch = true :=
    fun ch hch => isVariableChar_of_isAlpha (h ch hch)
  refine .inr ⟨?_, fun ch hch => isLabelChar_of_isVariableChar (hchars ch hch),
    getLast?_ne_dot hchars⟩
  obtain ⟨first, others, hcons⟩ :=
    List.exists_cons_of_ne_nil (l := label.toList) (by simpa using hne)
  exact ⟨first, by rw [hcons]; rfl,
    isNameLetter_of_isAlpha (h first (by rw [hcons]; exact List.mem_cons_self ..))⟩

/-- A shortened IRI is a prefix name or a local name. -/
theorem matches_shortened {label : String} {name : List Char} (hne : label ≠ "")
    (hlabel : IsWord label) (hname : isLocalName name = true) :
    Terminal.prefixName.Matches (label.toList ++ ':' :: name) ∨
      Terminal.localName.Matches (label.toList ++ ':' :: name) := by
  have hprefix := isPrefix_of_isWord hne hlabel
  by_cases hnil : name = []
  · subst hnil
    exact .inl ⟨label.toList, rfl, hprefix⟩
  · exact .inr ⟨label.toList, name, rfl, hprefix, isLocal_of_isLocalName hname hnil⟩

theorem inline_shortened {label : String} {name : List Char} (hne : label ≠ "")
    (hlabel : IsWord label) (hname : isLocalName name = true) :
    Inline (label.toList ++ ':' :: name) [label.toList ++ ':' :: name] := by
  obtain ⟨hchars, -, -⟩ := isLocalName_chars hname
  obtain ⟨first, others, hcons⟩ := List.exists_cons_of_ne_nil (l := label.toList) (by simpa using hne)
  have hfirst : ∃ ch ∈ (label.toList ++ ':' :: name).head?, ch.isAlpha = true :=
    ⟨first, by rw [hcons]; rfl, hlabel first (by rw [hcons]; exact List.mem_cons_self ..)⟩
  have hopens : ∃ ch ∈ (label.toList ++ ':' :: name).head?, isOpening ch = true := by
    obtain ⟨ch, hch, halpha⟩ := hfirst
    exact ⟨ch, hch, by simp [isOpening, halpha]⟩
  have hall : ∀ ch ∈ label.toList ++ ':' :: name, ch ≠ '\n' ∧ ch ≠ '%' ∧ ch ≠ '\\' := by
    refine List.forall_mem_append.2 ⟨fun ch hch => ?_, List.forall_mem_cons.2 ⟨by decide, ?_⟩⟩
    · exact isVariableChar_ne (isVariableChar_of_isAlpha (hlabel ch hch))
    · exact fun ch hch => ⟨(hchars ch hch).2.2.2, (hchars ch hch).2.1, (hchars ch hch).2.2.1⟩
  have hlongest : ∀ rest, Ends rest → IsLongest (label.toList ++ ':' :: name) rest :=
    fun rest hrest => longest_of_delimited hfirst (fun ch hch => (hall ch hch).2) hrest.1
  have hbreak : '\n' ∉ label.toList ++ ':' :: name := fun hmem => (hall _ hmem).1 rfl
  rcases matches_shortened hne hlabel hname with hmatches | hmatches
  · exact .lexeme hmatches hopens hbreak hlongest
  · exact .lexeme hmatches hopens hbreak hlongest

section

variable {table : List Shorthand} (htable : LabelsFit table)
include htable

/-- An IRI is written as a lexeme of one of three kinds. -/
theorem matches_writeIri (iri : Iri) :
    Terminal.iriRef.Matches (writeIri table iri) ∨ Terminal.prefixName.Matches (writeIri table iri) ∨
      Terminal.localName.Matches (writeIri table iri) := by
  rcases writeIri_cases table iri with hfull | ⟨s, hs, name, hname, -, hshort⟩
  · rw [hfull]
    exact .inl (matches_bracketedIri _)
  · rw [hshort]
    exact .inr (matches_shortened (htable s hs).1 (htable s hs).2 hname)

theorem inline_iri (iri : Iri) : Inline (writeIri table iri) [writeIri table iri] := by
  rcases writeIri_cases table iri with hfull | ⟨s, hs, name, hname, -, hshort⟩
  · rw [hfull]
    exact inline_bracketedIri _
  · rw [hshort]
    exact inline_shortened (htable s hs).1 (htable s hs).2 hname

end

/-! ### Literals -/

theorem stringPiece_escapedLiteralChar (ch : Char) :
    StringPiece '"' (escapedLiteralChar ch) := by
  unfold escapedLiteralChar
  split
  case h_6 hslash hquote hbreak hreturn _ => exact .char hquote hslash hbreak hreturn
  all_goals exact .escape (by decide)

/-- A line is neither fed nor returned inside a string. -/
theorem StringPiece.notMem_of_break {quote : Char} {p : List Char} (h : StringPiece quote p)
    {br : Char} (hbr : br = '\n' ∨ br = '\r') : br ∉ p := by
  have hnone : ∀ br ∈ ['\n', '\r'], br ≠ '\\' ∧ br ∉ stringEscapes := by decide
  obtain ⟨hslash, hescapes⟩ := hnone br (by simpa using hbr)
  cases h with
  | char _ _ hfeed hreturn => rcases hbr with rfl | rfl <;> simpa [eq_comm] using ‹_›
  | escape hch =>
    refine List.not_mem_cons_of_ne_of_not_mem hslash fun hmem => ?_
    exact hescapes (List.mem_singleton.1 hmem ▸ hch)

/-- An escaped text is made of characters that may stand bare in a string, and of escapes. -/
theorem exists_stringPieces (cs : List Char) :
    ∃ pieces : List (List Char), escapeLiteral cs = pieces.flatten ∧
      ∀ p ∈ pieces, StringPiece '"' p :=
  ⟨cs.map escapedLiteralChar, List.flatMap_def .., List.forall_mem_map.2 fun ch _ =>
    stringPiece_escapedLiteralChar ch⟩

theorem notMem_escapeLiteral {br : Char} (hbr : br = '\n' ∨ br = '\r') (cs : List Char) :
    br ∉ escapeLiteral cs := by
  obtain ⟨pieces, hpieces, hall⟩ := exists_stringPieces cs
  rw [hpieces]
  intro hmem
  obtain ⟨p, hp, hbreak⟩ := List.mem_flatten.1 hmem
  exact (hall p hp).notMem_of_break hbr hbreak

/-- The text of a literal between its quotation marks. -/
theorem matches_quoted (text : String) :
    (Terminal.string '"').Matches ('"' :: (escapeLiteral text.toList ++ ['"'])) := by
  obtain ⟨pieces, hpieces, hall⟩ := exists_stringPieces text.toList
  rw [hpieces]
  exact ⟨.inl rfl, pieces, rfl, hall⟩

theorem inline_quoted (text : String) : Inline ('"' :: (escapeLiteral text.toList ++ ['"']))
    ['"' :: (escapeLiteral text.toList ++ ['"'])] := by
  refine .lexeme (matches_quoted text) ⟨'"', rfl, by decide⟩ ?_ fun rest hrest => ?_
  · simpa using notMem_escapeLiteral (.inl rfl) text.toList
  · obtain ⟨pieces, hpieces, hall⟩ := exists_stringPieces text.toList
    rw [hpieces]
    exact longest_quoted hall hrest.2

section

variable {table : List Shorthand} (htable : LabelsFit table)
include htable

theorem inline_literal (l : Literal) : Inline (l.print table) (l.lexemes table) := by
  have hquoted := inline_quoted l.text
  unfold Literal.print Literal.lexemes
  cases hd : l.datatype with
  | none => simpa using hquoted
  | some datatype =>
    have hiri := inline_iri htable datatype
    refine ⟨⟨'"', rfl, by decide⟩, ?_, fun {rest others} hrest h => ?_⟩
    · have hbreak := hquoted.noBreak
      have hbreak' := hiri.noBreak
      simp at hbreak ⊢
      exact ⟨hbreak, hbreak'⟩
    · have hmarks : Scans ("^^".toList ++ (writeIri table datatype ++ rest))
          ("^^".toList :: ([writeIri table datatype] ++ others)) :=
        scans_mark (by decide) (by decide) (by decide) (hiri.scans hrest h)
      have hends : Ends ("^^".toList ++ (writeIri table datatype ++ rest)) :=
        ends_of_delimiter (by decide) _
      have hall := hquoted.scans hends hmarks
      simpa using hall

/-! ## Paths and triples -/

/-- What obeys the rules has names that need no care, and operators with their operands. -/
structure Rules.Scannable (r : Rules) : Prop where
  var : ∀ v, r.var v → IsPlainName v.name
  label : ∀ label, r.label label → IsPlainName label
  path : ∀ operator items, r.path operator items → operator.HasOperands items

variable {r : Rules} (hr : r.Scannable)
include hr

theorem Term.inline {t : Term} (h : t.Obeys r) : Inline (t.print table) (t.lexemes table) := by
  cases t with
  | var v => exact inline_variable (hr.var v h)
  | iri i => exact inline_iri htable i
  | blank label => exact inline_label (hr.label label h)
  | literal l => exact inline_literal htable l

end

/-! ### Paths -/

theorem join_cons (separator part : List Char) (parts : List (List Char)) :
    join separator (part :: parts) = part ++ parts.flatMap (separator ++ ·) := by
  induction parts generalizing part with
  | nil => simp [join]
  | cons second parts ih =>
    rw [join, ih, List.flatMap_cons, List.append_assoc, List.append_assoc]
    simp

theorem printPaths_eq_map (table : List Shorthand) (paths : List Path) :
    printPaths table paths = paths.map (Path.print table) := by
  induction paths with
  | nil => rfl
  | cons path paths ih => rw [printPaths, ih, List.map_cons]

section

variable {table : List Shorthand} {paths : List Path} {s : String}

/-- Paths with a separator before each. -/
theorem scans_following (hs : s ∈ ["|", "/"])
    (h : ∀ path ∈ paths, Inline (path.print table) (path.lexemes table)) {rest : List Char}
    {others : List (List Char)} (hrest : Ends rest) (hothers : Scans rest others) :
    Ends ((paths.flatMap fun path => s.toList ++ path.print table) ++ rest) ∧
      Scans ((paths.flatMap fun path => s.toList ++ path.print table) ++ rest)
        (followingLexemes table [s.toList] paths ++ others) := by
  have hsymbols : ∀ s ∈ ["|", "/"], s ∈ ["(", "^", "|", "/"] ∧
      ∃ ch ∈ delimiters, s.toList = [ch] := by decide
  obtain ⟨hopening, ch, hch, hlist⟩ := hsymbols s hs
  induction paths with
  | nil => exact ⟨hrest, hothers⟩
  | cons path paths ih =>
    obtain ⟨hpath, hpaths⟩ := List.forall_mem_cons.1 h
    obtain ⟨hends, hscans⟩ := ih hpaths
    have hfirst := scans_symbol_opening hopening hpath.opens (hpath.scans hends hscans)
    rw [List.flatMap_cons, followingLexemes]
    constructor
    · rw [hlist]
      exact ends_of_delimiter hch _
    · simpa using hfirst

/-- Paths with a separator between each two. -/
theorem inline_joined (hs : s ∈ ["|", "/"]) (hne : paths ≠ [])
    (h : ∀ path ∈ paths, Inline (path.print table) (path.lexemes table)) :
    Inline (join s.toList (printPaths table paths))
      (joinedLexemes table [s.toList] paths) := by
  obtain ⟨path, paths, rfl⟩ := List.exists_cons_of_ne_nil hne
  obtain ⟨hpath, hpaths⟩ := List.forall_mem_cons.1 h
  have htext : join s.toList (printPaths table (path :: paths)) =
      path.print table ++ paths.flatMap fun path => s.toList ++ path.print table := by
    rw [printPaths_eq_map, List.map_cons, join_cons, List.flatMap_map]
  have hnone : ∀ s ∈ ["|", "/"], '\n' ∉ s.toList := by decide
  rw [htext, joinedLexemes]
  refine ⟨?_, ?_, fun {rest others} hrest hothers => ?_⟩
  · obtain ⟨ch, hch, hopening⟩ := hpath.opens
    exact ⟨ch, by rw [List.head?_append, hch]; rfl, hopening⟩
  · rw [List.mem_append, not_or]
    refine ⟨hpath.noBreak, fun hmem => ?_⟩
    obtain ⟨path', hpath', hmem⟩ := List.mem_flatMap.1 hmem
    rcases List.mem_append.1 hmem with hmem | hmem
    · exact hnone _ hs hmem
    · exact (hpaths path' hpath').noBreak hmem
  · obtain ⟨hends, hscans⟩ := scans_following hs hpaths hrest hothers
    have hall := hpath.scans hends hscans
    simpa using hall

/-- A path after `^`. -/
theorem inline_inverse {cs : List Char} {lexemes : List (List Char)} (h : Inline cs lexemes) :
    Inline ('(' :: '^' :: (cs ++ [')'])) ("(".toList :: "^".toList :: (lexemes ++ [")".toList])) := by
  refine ⟨⟨'(', rfl, by decide⟩, ?_, fun {rest others} _ hothers => ?_⟩
  · simpa using h.noBreak
  · have hclose : Scans (')' :: rest) (")".toList :: others) :=
      scans_mark (s := ")") (by decide) (by decide) (by decide) hothers
    have hinner := h.scans (ends_of_delimiter (by decide) rest) hclose
    have hinverse := scans_symbol_opening (s := "^") (by decide) h.opens hinner
    have hopen : Scans ("(".toList ++ ("^".toList ++ (cs ++ ')' :: rest)))
        ("(".toList :: "^".toList :: (lexemes ++ ")".toList :: others)) := by
      refine scans_symbol (by decide) (fun ch hch => ?_) hinverse
      obtain rfl : '^' = ch := Option.some.inj hch
      decide
    simpa using hopen

/-- A path before `*`, `+` or `?`. -/
theorem inline_repeated {s : String} (hs : s ∈ ["*", "+", "?"]) {cs : List Char}
    {lexemes : List (List Char)} (h : Inline cs lexemes) :
    Inline ('(' :: (cs ++ (s.toList ++ [')'])))
      ("(".toList :: (lexemes ++ [s.toList, ")".toList])) := by
  have hfacts : ∀ s ∈ ["*", "+", "?"], s ∈ symbols ∧ '\n' ∉ s.toList ∧
      (∃ ch ∈ delimiters, s.toList = [ch]) ∧ ')' ∉ symbolExtensions s ∧
        ∀ first ∈ s.toList.head?, joins first ')' = false := by decide
  obtain ⟨hsymbol, hbreak, ⟨mark, hmark, hlist⟩, hextends, hjoins⟩ := hfacts s hs
  refine ⟨⟨'(', rfl, by decide⟩, ?_, fun {rest others} _ hothers => ?_⟩
  · simpa using ⟨h.noBreak, hbreak⟩
  · have hclose : Scans (')' :: rest) (")".toList :: others) :=
      scans_mark (s := ")") (by decide) (by decide) (by decide) hothers
    have hrepeat : Scans (s.toList ++ ')' :: rest) (s.toList :: ")".toList :: others) := by
      refine scans_symbol hsymbol (fun ch hch => ?_) hclose
      obtain rfl : ')' = ch := Option.some.inj hch
      exact ⟨hextends, hjoins⟩
    have hends : Ends (s.toList ++ ')' :: rest) := by
      rw [hlist]
      exact ends_of_delimiter hmark _
    have hopen := scans_symbol_opening (s := "(") (by decide) h.opens (h.scans hends hrepeat)
    simpa using hopen

end

mutual

/-- Any path but a single IRI is read in its parentheses. -/
theorem Path.inline {table : List Shorthand} {r : Rules} (htable : LabelsFit table)
    (hr : r.Scannable) :
    (path : Path) → path.Obeys r → Inline (path.print table) (path.lexemes table)
  | .iri i, _ => inline_iri htable i
  | .compound operator items, h => by
    have hoperands := hr.path operator items h.1
    have hitems := pathsInline htable hr items h.2
    cases operator with
    | sequence => exact (inline_joined (s := "/") (by decide) hoperands hitems).parenthesized
    | alternative => exact (inline_joined (s := "|") (by decide) hoperands hitems).parenthesized
    | inverse =>
      obtain ⟨item, rfl⟩ := hoperands
      have hitem := List.forall_mem_singleton.1 hitems
      simpa [Path.print, Path.lexemes, printPaths, join, joinedLexemes, followingLexemes,
        PathOperator.symbol]
        using inline_inverse hitem
    | zeroOrMore | oneOrMore | zeroOrOne =>
      obtain ⟨item, rfl⟩ := hoperands
      have hitem := List.forall_mem_singleton.1 hitems
      simpa [Path.print, Path.lexemes, printPaths, join, joinedLexemes, followingLexemes]
        using inline_repeated (s := .singleton (PathOperator.symbol _)) (by decide) hitem

theorem pathsInline {table : List Shorthand} {r : Rules} (htable : LabelsFit table)
    (hr : r.Scannable) :
    (paths : List Path) → PathsObey r paths →
      ∀ path ∈ paths, Inline (path.print table) (path.lexemes table)
  | [], _ => fun _ hpath => absurd hpath List.not_mem_nil
  | path :: paths, h => List.forall_mem_cons.2
    ⟨path.inline htable hr h.1, pathsInline htable hr paths h.2⟩

end

end WikibaseQuery

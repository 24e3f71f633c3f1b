import WikibaseQuery.Proofs.Names

/-!
# Lexemes of SPARQL

A text is read as lexemes with blanks between them, and at each point the longest lexeme counts.
`Terminal` names the kinds of lexemes in the grammar of SPARQL 1.1, `Terminal.Matches` says which
texts are of a kind, and `Scans` is the reading of a text.

* `Terminal.Matches.begins` — a lexeme is not empty, and its first character says much about its
  kind;
* `Scans.unique` — a text is read in one way.
-/

namespace WikibaseQuery

/-! ## Characters of a text -/

section

variable {p : Char → Prop} [DecidablePred p]

-- The type of characters is finite, and where that is known a quantifier over characters would be
-- decided by trying them all. These instances try the characters of the text alone.

instance (priority := 2000) decidableForallMemChars (cs : List Char) :
    Decidable (∀ ch ∈ cs, p ch) :=
  List.decidableBAll p cs

instance (priority := 2000) decidableExistsMemChars (cs : List Char) :
    Decidable (∃ ch ∈ cs, p ch) :=
  List.decidableBEx p cs

instance (priority := 2000) decidableForallMemChar (ch? : Option Char) :
    Decidable (∀ ch ∈ ch?, p ch) :=
  Option.decidableForallMem ch?

instance (priority := 2000) decidableExistsMemChar (ch? : Option Char) :
    Decidable (∃ ch ∈ ch?, p ch) :=
  Option.decidableExistsMem ch?

end

/-! ## Terminals -/

/-- The blanks between lexemes (`WS`). -/
def isSpace (ch : Char) : Bool := ch = ' ' || ch = '\t' || ch = '\r' || ch = '\n'

/-- The characters between the angle brackets of an IRI. -/
def isIriChar (ch : Char) : Bool :=
  0x20 < ch.toNat && !(['<', '>', '"', '\x7b', '\x7d', '|', '^', '\x60', '\\'].contains ch)

/-- The characters that variables and labels begin with: letters, digits and the underscore. -/
def isNameInitial (ch : Char) : Bool := isNameLetter ch || ch = '_' || ch.isDigit

/-- A text of the characters of labels, with dots only within. -/
def IsDotted (isInitial : Char → Bool) (cs : List Char) : Prop :=
  (∃ ch ∈ cs.head?, isInitial ch = true) ∧ (∀ ch ∈ cs, isLabelChar ch = true) ∧
    cs.getLast? ≠ some '.'

/-- What may come before the colon of a shortened IRI (`PN_PREFIX`), or nothing. -/
def IsPrefix (cs : List Char) : Prop := cs = [] ∨ IsDotted isNameLetter cs

/-- Hexadecimal digits. -/
def isHexDigit (ch : Char) : Bool :=
  ch.isDigit || inRanges [(0x41, 0x46), (0x61, 0x66)] ch

/-- The characters that may be escaped in a local name. -/
def localEscapes : List Char :=
  ['_', '~', '.', '-', '!', '$', '&', '\'', '(', ')', '*', '+', ',', ';', '=', '/', '?', '#', '@',
    '%']

/-- The pieces of local names. -/
inductive LocalPiece : List Char → Prop
  | char {ch : Char} : (isLabelChar ch || ch = ':') = true → LocalPiece [ch]
  | percent {a b : Char} : isHexDigit a = true → isHexDigit b = true → LocalPiece ['%', a, b]
  | escape {ch : Char} : ch ∈ localEscapes → LocalPiece ['\\', ch]

/-- What may come after the colon of a shortened IRI (`PN_LOCAL`). -/
def IsLocal (cs : List Char) : Prop :=
  ∃ pieces : List (List Char), cs = pieces.flatten ∧ (∀ p ∈ pieces, LocalPiece p) ∧ pieces ≠ [] ∧
    (∀ ch, pieces.head? = some [ch] → (isNameInitial ch || ch = ':') = true) ∧
    pieces.getLast? ≠ some ['.']

/-- Digits, one at least. -/
def IsInteger (cs : List Char) : Prop := cs ≠ [] ∧ ∀ ch ∈ cs, ch.isDigit = true

/-- The forms of a number. -/
inductive NumberForm where
  | integer
  | decimal
  | double
  deriving DecidableEq

/-- An exponent. -/
def IsExponent (cs : List Char) : Prop :=
  ∃ mark sign digits, cs = mark :: (sign ++ digits) ∧ (mark = 'e' ∨ mark = 'E') ∧
    (sign = [] ∨ sign = ['+'] ∨ sign = ['-']) ∧ IsInteger digits

/-- The texts of a form. -/
def NumberForm.Matches : NumberForm → List Char → Prop
  | integer, cs => IsInteger cs
  | decimal, cs => ∃ whole part, cs = whole ++ '.' :: part ∧ (∀ ch ∈ whole, ch.isDigit = true) ∧
      IsInteger part
  | double, cs => ∃ mantissa exponent, cs = mantissa ++ exponent ∧ IsExponent exponent ∧
      (IsInteger mantissa ∨
        ∃ whole part, mantissa = whole ++ '.' :: part ∧ (∀ ch ∈ whole, ch.isDigit = true) ∧
          (∀ ch ∈ part, ch.isDigit = true) ∧ (whole ≠ [] ∨ part ≠ []))

/-- The characters that a backslash may escape in a string (`ECHAR`). -/
def stringEscapes : List Char := ['t', 'b', 'n', 'r', 'f', '\\', '"', '\'']

/-- The pieces of a string on one line. -/
inductive StringPiece (quote : Char) : List Char → Prop
  | char {ch : Char} : ch ≠ quote → ch ≠ '\\' → ch ≠ '\n' → ch ≠ '\r' → StringPiece quote [ch]
  | escape {ch : Char} : ch ∈ stringEscapes → StringPiece quote ['\\', ch]

/-- The pieces of a string between three quotation marks. -/
inductive LongStringPiece (quote : Char) : List Char → Prop
  | char {quotes : List Char} {ch : Char} :
      (quotes = [] ∨ quotes = [quote] ∨ quotes = [quote, quote]) → ch ≠ quote → ch ≠ '\\' →
        LongStringPiece quote (quotes ++ [ch])
  | escape {quotes : List Char} {ch : Char} :
      (quotes = [] ∨ quotes = [quote] ∨ quotes = [quote, quote]) → ch ∈ stringEscapes →
        LongStringPiece quote (quotes ++ ['\\', ch])

/-- The symbols of the grammar. -/
def symbols : List String :=
  [ "\x7b", "\x7d", "(", ")", "[", "]", ".", ";", ",", "*", "/", "|", "^", "?", "+", "-", "!", "=",
    "!=", "<", ">", "<=", ">=", "||", "&&", "^^" ]

/-- The kinds of lexemes. -/
inductive Terminal where
  /-- `IRIREF` -/
  | iriRef
  /-- `PNAME_NS` -/
  | prefixName
  /-- `PNAME_LN` -/
  | localName
  /-- `BLANK_NODE_LABEL` -/
  | blankLabel
  /-- `VAR1` and `VAR2`, by their first character -/
  | var (sigil : Char)
  /-- `LANGTAG` -/
  | language
  /-- The numbers, with or without a sign -/
  | number (sign : Option Char) (form : NumberForm)
  /-- `STRING_LITERAL1` and `STRING_LITERAL2`, by their quotation mark -/
  | string (quote : Char)
  /-- `STRING_LITERAL_LONG1` and `STRING_LITERAL_LONG2` -/
  | longString (quote : Char)
  /-- `NIL` -/
  | nil
  /-- `ANON` -/
  | anon
  /-- A keyword; one in capitals may be written in any case -/
  | word (w : String)
  | symbol (s : String)

/-- The texts of a kind.  Any word counts as a keyword. -/
def Terminal.Matches : Terminal → List Char → Prop
  | iriRef, cs => ∃ iri, cs = '<' :: (iri ++ ['>']) ∧ ∀ ch ∈ iri, isIriChar ch = true
  | prefixName, cs => ∃ label, cs = label ++ [':'] ∧ IsPrefix label
  | localName, cs => ∃ label name, cs = label ++ ':' :: name ∧ IsPrefix label ∧ IsLocal name
  | blankLabel, cs => ∃ label, cs = '_' :: ':' :: label ∧ IsDotted isNameInitial label
  | var sigil, cs => (sigil = '?' ∨ sigil = '$') ∧ ∃ name, cs = sigil :: name ∧
      (∃ ch ∈ name.head?, isNameInitial ch = true) ∧ ∀ ch ∈ name, isVariableChar ch = true
  | language, cs => ∃ (letters : List Char) (tags : List (List Char)),
      cs = '@' :: (letters ++ tags.flatMap ('-' :: ·)) ∧ letters ≠ [] ∧
        (∀ ch ∈ letters, ch.isAlpha = true) ∧
          ∀ tag ∈ tags, tag ≠ [] ∧ ∀ ch ∈ tag, ch.isAlphanum = true
  | number sign form, cs => (sign = none ∨ sign = some '+' ∨ sign = some '-') ∧
      ∃ digits, cs = sign.toList ++ digits ∧ form.Matches digits
  | string quote, cs => (quote = '"' ∨ quote = '\'') ∧
      ∃ pieces : List (List Char), cs = quote :: (pieces.flatten ++ [quote]) ∧
        ∀ p ∈ pieces, StringPiece quote p
  | longString quote, cs => (quote = '"' ∨ quote = '\'') ∧
      ∃ pieces : List (List Char), cs = quote :: quote :: quote :: (pieces.flatten ++
        [quote, quote, quote]) ∧ ∀ p ∈ pieces, LongStringPiece quote p
  | nil, cs => ∃ blanks, cs = '(' :: (blanks ++ [')']) ∧ ∀ ch ∈ blanks, isSpace ch = true
  | anon, cs => ∃ blanks, cs = '[' :: (blanks ++ [']']) ∧ ∀ ch ∈ blanks, isSpace ch = true
  | word w, cs => (cs = w.toList ∨ cs.map Char.toUpper = w.toList) ∧
      (∃ ch ∈ cs.head?, ch.isAlpha = true) ∧ ∀ ch ∈ cs, (ch.isAlphanum || ch = '_') = true
  | symbol s, cs => s ∈ symbols ∧ cs = s.toList

/-! ## Reading a text -/

/-- No lexeme goes on after this one into the text that follows it. -/
def IsLongest (lexeme rest : List Char) : Prop :=
  ∀ (t : Terminal) (more : List Char), t.Matches (lexeme ++ more) → more <+: rest → more = []

/-- The text is read as the lexemes, each the longest one at its place, with blanks between them. -/
inductive Scans : List Char → List (List Char) → Prop
  | done : Scans [] []
  | space {ch : Char} {rest : List Char} {lexemes : List (List Char)} : isSpace ch = true →
      Scans rest lexemes → Scans (ch :: rest) lexemes
  | lexeme {t : Terminal} {lexeme rest : List Char} {lexemes : List (List Char)} :
      t.Matches lexeme → IsLongest lexeme rest → Scans rest lexemes →
        Scans (lexeme ++ rest) (lexeme :: lexemes)

/-- The characters that a lexeme of the kind may begin with. -/
def Terminal.begins : Terminal → Char → Bool
  | iriRef, ch => ch = '<'
  | prefixName, ch | localName, ch => isNameLetter ch || ch = ':'
  | blankLabel, ch => ch = '_'
  | var sigil, ch => (ch = '?' || ch = '$') && ch = sigil
  | language, ch => ch = '@'
  | number none _, ch => ch.isDigit || ch = '.'
  | number (some sign) _, ch => (ch = '+' || ch = '-') && ch = sign
  | string quote, ch | longString quote, ch => (ch = '"' || ch = '\'') && ch = quote
  | nil, ch => ch = '('
  | anon, ch => ch = '['
  | word _, ch => ch.isAlpha
  | symbol s, ch => s ∈ symbols ∧ s.toList.head? = some ch

theorem NumberForm.Matches.begins {form : NumberForm} {cs : List Char} (h : form.Matches cs) :
    ∃ ch rest, cs = ch :: rest ∧ (ch.isDigit || ch = '.') = true := by
  have hinteger : ∀ {ds : List Char}, IsInteger ds →
      ∃ ch rest, ds = ch :: rest ∧ (ch.isDigit || ch = '.') = true := by
    rintro (_ | ⟨ch, rest⟩) ⟨hne, hdigits⟩
    · exact absurd rfl hne
    · exact ⟨ch, rest, rfl, by simp [hdigits ch (List.mem_cons_self ..)]⟩
  have hpoint : ∀ whole part : List Char, (∀ ch ∈ whole, ch.isDigit = true) →
      ∃ ch rest, whole ++ '.' :: part = ch :: rest ∧ (ch.isDigit || ch = '.') = true := by
    rintro (_ | ⟨ch, rest⟩) part hdigits
    · exact ⟨'.', part, rfl, by simp⟩
    · exact ⟨ch, _, rfl, by simp [hdigits ch (List.mem_cons_self ..)]⟩
  cases form with
  | integer => exact hinteger h
  | decimal =>
    obtain ⟨whole, part, rfl, hwhole, -⟩ := h
    exact hpoint whole part hwhole
  | double =>
    obtain ⟨mantissa, exponent, rfl, -, hmantissa | ⟨whole, part, rfl, hwhole, -⟩⟩ := h
    · obtain ⟨ch, rest, rfl, hch⟩ := hinteger hmantissa
      exact ⟨ch, _, rfl, hch⟩
    · obtain ⟨ch, rest, heq, hch⟩ := hpoint whole (part ++ exponent) hwhole
      exact ⟨ch, rest, by simpa using heq, hch⟩

theorem IsPrefix.begins {label : List Char} (h : IsPrefix label) (name : List Char) :
    ∃ ch rest, label ++ ':' :: name = ch :: rest ∧ (isNameLetter ch || ch = ':') = true := by
  rcases h with rfl | ⟨⟨ch, hch, hinitial⟩, -, -⟩
  · exact ⟨':', name, rfl, by simp⟩
  · cases label with
    | nil => exact absurd hch (by simp)
    | cons first rest =>
      obtain rfl : first = ch := Option.some.inj hch
      exact ⟨first, _, rfl, by simp [hinitial]⟩

/-- A lexeme is not empty, and its first character says much about its kind. -/
theorem Terminal.Matches.begins {t : Terminal} {cs : List Char} (h : t.Matches cs) :
    ∃ ch rest, cs = ch :: rest ∧ t.begins ch = true := by
  cases t with
  | iriRef =>
    obtain ⟨iri, rfl, -⟩ := h
    exact ⟨_, _, rfl, by simp [Terminal.begins]⟩
  | prefixName =>
    obtain ⟨label, rfl, hlabel⟩ := h
    exact hlabel.begins []
  | localName =>
    obtain ⟨label, name, rfl, hlabel, -⟩ := h
    exact hlabel.begins name
  | blankLabel =>
    obtain ⟨label, rfl, -⟩ := h
    exact ⟨_, _, rfl, by simp [Terminal.begins]⟩
  | var sigil =>
    obtain ⟨hsigil, name, rfl, -⟩ := h
    exact ⟨_, _, rfl, by simp [Terminal.begins, hsigil]⟩
  | language =>
    obtain ⟨letters, tags, rfl, -⟩ := h
    exact ⟨_, _, rfl, by simp [Terminal.begins]⟩
  | number sign form =>
    obtain ⟨hsign, digits, rfl, hdigits⟩ := h
    cases sign with
    | none => exact hdigits.begins
    | some sign => exact ⟨sign, digits, rfl, by simpa [Terminal.begins] using hsign⟩
  | string quote =>
    obtain ⟨hquote, pieces, rfl, -⟩ := h
    exact ⟨_, _, rfl, by simp [Terminal.begins, hquote]⟩
  | longString quote =>
    obtain ⟨hquote, pieces, rfl, -⟩ := h
    exact ⟨_, _, rfl, by simp [Terminal.begins, hquote]⟩
  | nil =>
    obtain ⟨blanks, rfl, -⟩ := h
    exact ⟨_, _, rfl, by simp [Terminal.begins]⟩
  | anon =>
    obtain ⟨blanks, rfl, -⟩ := h
    exact ⟨_, _, rfl, by simp [Terminal.begins]⟩
  | word w =>
    obtain ⟨-, ⟨ch, hch, halpha⟩, -⟩ := h
    cases cs with
    | nil => exact absurd hch (by simp)
    | cons first rest =>
      obtain rfl : first = ch := Option.some.inj hch
      exact ⟨first, rest, rfl, halpha⟩
  | symbol s =>
    obtain ⟨hs, rfl⟩ := h
    have hne : ∀ s ∈ symbols, s.toList ≠ [] := by decide
    obtain ⟨ch, rest, hcons⟩ := List.exists_cons_of_ne_nil (hne s hs)
    exact ⟨ch, rest, hcons, by simp [Terminal.begins, hs, hcons]⟩

theorem Terminal.mem_symbols_of_begins {s : String} {ch : Char}
    (h : (Terminal.symbol s).begins ch = true) : s ∈ symbols ∧ ch ∈ s.toList.head? := by
  simpa [Terminal.begins] using h

/-- No lexeme begins with a blank. -/
theorem Terminal.isSpace_of_begins {t : Terminal} {ch : Char} (h : t.begins ch = true) :
    isSpace ch = false := by
  by_contra hspace
  rw [Bool.not_eq_false] at hspace
  have hcases : ch = ' ' ∨ ch = '\t' ∨ ch = '\r' ∨ ch = '\n' := by
    simpa [isSpace, or_assoc] using hspace
  have hsymbols : ∀ s ∈ symbols, ∀ ch ∈ [' ', '\t', '\r', '\n'], ch ∉ s.toList.head? := by
    decide
  cases t with
  | symbol s =>
    obtain ⟨hs, hhead⟩ := Terminal.mem_symbols_of_begins h
    exact hsymbols s hs ch (by simpa using hcases) hhead
  | number sign form =>
    cases sign <;> rcases hcases with rfl | rfl | rfl | rfl <;> revert h <;>
      simp +decide [Terminal.begins]
  | _ =>
    rcases hcases with rfl | rfl | rfl | rfl <;> revert h <;> simp +decide [Terminal.begins]

/-! ### One reading -/

section

variable {t : Terminal} {ch : Char} {cs rest lexeme : List Char} {lexemes lexemes' : List (List Char)}

theorem scans_nil (h : Scans [] lexemes) : lexemes = [] := by
  generalize hcs : ([] : List Char) = cs at h
  cases h with
  | done => rfl
  | space _ _ => exact absurd hcs (by simp)
  | lexeme hl _ _ =>
    obtain ⟨first, more, rfl, -⟩ := hl.begins
    exact absurd hcs (by simp)

/-- A blank is passed over. -/
theorem scans_space (hch : isSpace ch = true) (h : Scans (ch :: rest) lexemes) :
    Scans rest lexemes := by
  generalize hcs : ch :: rest = cs at h
  cases h with
  | done => exact absurd hcs (by simp)
  | space _ hrest =>
    obtain ⟨-, rfl⟩ := List.cons.inj hcs
    exact hrest
  | lexeme hl _ _ =>
    obtain ⟨first, more, rfl, hbegins⟩ := hl.begins
    obtain ⟨rfl, -⟩ := List.cons.inj hcs
    exact absurd (Terminal.isSpace_of_begins hbegins) (by simp [hch])

/-- The longest lexeme is read. -/
theorem scans_lexeme (hl : t.Matches lexeme) (hlongest : IsLongest lexeme rest)
    (h : Scans (lexeme ++ rest) lexemes) :
    ∃ others, lexemes = lexeme :: others ∧ Scans rest others := by
  generalize hcs : lexeme ++ rest = cs at h
  obtain ⟨first, more, hfirst, hbegins⟩ := hl.begins
  cases h with
  | done => exact absurd hcs (by simp [hfirst])
  | space hspace _ =>
    rw [hfirst] at hcs
    obtain ⟨rfl, -⟩ := List.cons.inj hcs
    exact absurd (Terminal.isSpace_of_begins hbegins) (by simp [hspace])
  | @lexeme t' lexeme' rest' others hl' hlongest' hrest' =>
    rcases List.append_eq_append_iff.1 hcs with ⟨middle, rfl, rfl⟩ | ⟨middle, rfl, rfl⟩
    · obtain rfl := hlongest t' middle hl' (List.prefix_append _ _)
      exact ⟨others, by simp, by simpa using hrest'⟩
    · obtain rfl := hlongest' t middle hl (List.prefix_append _ _)
      exact ⟨others, by simp, by simpa using hrest'⟩

/-- **A text is read in one way.** -/
theorem Scans.unique (h : Scans cs lexemes) (h' : Scans cs lexemes') : lexemes = lexemes' := by
  induction h generalizing lexemes' with
  | done => exact (scans_nil h').symm
  | space hch _ ih => exact ih (scans_space hch h')
  | lexeme hl hlongest _ ih =>
    obtain ⟨others, rfl, hothers⟩ := scans_lexeme hl hlongest h'
    rw [ih hothers]

end

end WikibaseQuery

import WikibaseQuery.Proofs.Terminals

/-!
# Where lexemes end

A lexeme is the longest one at its place if no lexeme goes on into the text that follows it.  What
may follow depends on the kind.

* `longest_of_delimited`, `longest_variable`, `longest_label` — keywords, shortened IRIs, variables
  and labels end where no name goes on;
* `longest_bracketed`, `longest_quoted` — IRIs and strings end with their last character;
* `longest_integer` — integers end where no number goes on;
* `longest_symbol` — symbols end where the next character makes nothing else of them.
-/

namespace WikibaseQuery

/-! ## Names and keywords -/

/-- The characters with which a name can go on. -/
def isNameMore (ch : Char) : Bool := isLabelChar ch || ch = ':' || ch = '%' || ch = '\\'

/-- A text that a name can go on with: a dot must be followed by more of the name. -/
def Continues (more : List Char) : Prop :=
  ∃ ch rest, more = ch :: rest ∧ isNameMore ch = true ∧
    (ch = '.' → ∃ next ∈ rest.head?, isNameMore next = true)

/-- No name goes on into the text. -/
def Delimited (rest : List Char) : Prop :=
  ∀ ch more, rest = ch :: more → isNameMore ch = true →
    ch = '.' ∧ ∀ next ∈ more.head?, isNameMore next = false

theorem Delimited.eq_nil {rest more : List Char} (h : Delimited rest) (hmore : more <+: rest)
    (hcontinues : more ≠ [] → Continues more) : more = [] := by
  by_contra hne
  obtain ⟨ch, others, rfl, hch, hdot⟩ := hcontinues hne
  obtain ⟨after, rfl⟩ := hmore
  obtain ⟨rfl, hnext⟩ := h ch (others ++ after) rfl hch
  obtain ⟨next, hmem, htrue⟩ := hdot rfl
  have hfalse : isNameMore next = false := by
    refine hnext next ?_
    cases others with
    | nil => exact absurd hmem (by simp)
    | cons first others => simpa using hmem
  exact absurd htrue (by simp [hfalse])

theorem LocalPiece.begins {p : List Char} (h : LocalPiece p) :
    ∃ ch rest, p = ch :: rest ∧ isNameMore ch = true := by
  cases h with
  | char hch => exact ⟨_, _, rfl, by simp_all [isNameMore]⟩
  | percent _ _ => exact ⟨_, _, rfl, by decide⟩
  | escape _ => exact ⟨_, _, rfl, by decide⟩

/-- A text made of the pieces of names that does not end in a dot goes on wherever it is cut, apart
from its escapes. -/
theorem continues_of_pieces {pieces : List (List Char)} {done more : List Char}
    (hpieces : ∀ p ∈ pieces, LocalPiece p) (hlast : pieces.getLast? ≠ some ['.'])
    (hcut : pieces.flatten = done ++ more) (hdone : ∀ ch ∈ done, ch ≠ '%' ∧ ch ≠ '\\')
    (hmore : more ≠ []) : Continues more := by
  induction pieces generalizing done with
  | nil => exact absurd (List.append_eq_nil_iff.1 hcut.symm).2 hmore
  | cons p pieces ih =>
    obtain ⟨hp, hothers⟩ := List.forall_mem_cons.1 hpieces
    cases done with
    | cons ch done =>
      -- outside escapes every piece is a single character
      have hsingle : p = [ch] := by
        obtain ⟨hpercent, hescape⟩ := hdone ch (List.mem_cons_self ..)
        cases hp with
        | char _ => simp_all
        | percent _ _ => exact absurd (List.cons.inj hcut).1.symm hpercent
        | escape _ => exact absurd (List.cons.inj hcut).1.symm hescape
      subst hsingle
      have hrest : pieces.flatten = done ++ more := by simpa using hcut
      refine ih hothers ?_ hrest fun c hc => hdone c (List.mem_cons_of_mem _ hc)
      cases pieces with
      | nil => simp
      | cons q pieces => simpa using hlast
    | nil =>
      obtain ⟨ch, rest, rfl, hch⟩ := hp.begins
      refine ⟨ch, rest ++ pieces.flatten, by simpa using hcut.symm, hch, ?_⟩
      rintro rfl
      have hdot : rest = [] := by cases hp; rfl
      subst hdot
      cases pieces with
      | nil => exact absurd rfl hlast
      | cons q pieces =>
        obtain ⟨next, others, rfl, hnext⟩ := (hothers q (List.mem_cons_self ..)).begins
        exact ⟨next, by simp, hnext⟩

/-- A text made of the pieces of names that does not end in a dot. -/
def IsNameLike (cs : List Char) : Prop :=
  ∃ pieces : List (List Char), pieces.flatten = cs ∧ (∀ p ∈ pieces, LocalPiece p) ∧
    pieces.getLast? ≠ some ['.']

/-- Cut into its characters, a text ends in a dot only where it did before. -/
theorem getLast?_singletons_ne {cs : List Char} (hlast : cs.getLast? ≠ some '.') :
    (cs.map fun ch => [ch]).getLast? ≠ some ['.'] := by
  rw [List.getLast?_map]
  cases hcs : cs.getLast? with
  | none => simp
  | some ch => simpa [hcs] using hlast

theorem isNameLike_of_chars {cs : List Char} (h : ∀ ch ∈ cs, (isLabelChar ch || ch = ':') = true)
    (hlast : cs.getLast? ≠ some '.') : IsNameLike cs := by
  refine ⟨cs.map fun ch => [ch], by simp [← List.flatMap_def], ?_, getLast?_singletons_ne hlast⟩
  exact List.forall_mem_map.2 fun ch hch => .char (h ch hch)

theorem isLabelChar_of_isVariableChar {ch : Char} (h : isVariableChar ch = true) :
    isLabelChar ch = true := by simp [isLabelChar, h]

theorem isNameLetter_of_isAlpha {ch : Char} (h : ch.isAlpha = true) : isNameLetter ch = true := by
  rcases isAlpha_iff_toNat.1 h with hrange | hrange <;> simp [isNameLetter, inRanges, hrange]

theorem isVariableChar_of_isAlpha {ch : Char} (h : ch.isAlpha = true) :
    isVariableChar ch = true := by simp [isVariableChar, isNameLetter_of_isAlpha h]

/-- A letter is none of the other characters. -/
theorem ne_of_isAlpha {ch : Char} (h : ch.isAlpha = true) {c : Char} (hc : c.isAlpha = false) :
    ch ≠ c := by
  rintro rfl
  exact absurd h (by simp [hc])

/-- The characters of keywords are characters of names. -/
theorem isVariableChar_of_isAlphanum {ch : Char} (h : (ch.isAlphanum || ch = '_') = true) :
    isVariableChar ch = true := by
  rcases Bool.or_eq_true_iff.1 h with h | h
  · rcases Bool.or_eq_true_iff.1 h with h | h
    · exact isVariableChar_of_isAlpha h
    · exact isVariableChar_of_isDigit h
  · obtain rfl : ch = '_' := by simpa using h
    decide

theorem getLast?_ne_dot {cs : List Char} (h : ∀ ch ∈ cs, isVariableChar ch = true) :
    cs.getLast? ≠ some '.' := by
  intro hlast
  exact absurd (h '.' (List.mem_of_getLast? hlast)) (by decide)

theorem isNameLike_of_variableChars {cs : List Char} (h : ∀ ch ∈ cs, isVariableChar ch = true) :
    IsNameLike cs :=
  isNameLike_of_chars (fun ch hch => by simp [isLabelChar, h ch hch]) (getLast?_ne_dot h)

/-- A shortened IRI is like a name, whatever its local name escapes. -/
theorem isNameLike_shortened {label name : List Char} (hlabel : IsPrefix label)
    (hname : name = [] ∨ IsLocal name) : IsNameLike (label ++ ':' :: name) := by
  have hchars : ∀ ch ∈ label, isLabelChar ch = true := by
    rcases hlabel with rfl | ⟨-, hchars, -⟩
    · exact fun ch hch => absurd hch List.not_mem_nil
    · exact hchars
  obtain ⟨pieces, rfl, hpieces, hlast⟩ : ∃ pieces : List (List Char), name = pieces.flatten ∧
      (∀ p ∈ pieces, LocalPiece p) ∧ ([':'] :: pieces).getLast? ≠ some ['.'] := by
    rcases hname with rfl | ⟨pieces, rfl, hpieces, hne, -, hlast⟩
    · exact ⟨[], rfl, by simp, by simp⟩
    · refine ⟨pieces, rfl, hpieces, ?_⟩
      rwa [List.getLast?_cons_of_ne_nil hne]
  refine ⟨label.map (fun ch => [ch]) ++ [':'] :: pieces, ?_, ?_, ?_⟩
  · simp [← List.flatMap_def]
  · refine List.forall_mem_append.2 ⟨List.forall_mem_map.2 fun ch hch => ?_, ?_⟩
    · exact .char (by simp [hchars ch hch])
    · exact List.forall_mem_cons.2 ⟨.char (by decide), hpieces⟩
  · rw [List.getLast?_append_of_ne_nil _ (List.cons_ne_nil _ _)]
    exact hlast

theorem IsNameLike.continues {done more : List Char} (h : IsNameLike (done ++ more))
    (hdone : ∀ ch ∈ done, ch ≠ '%' ∧ ch ≠ '\\') (hmore : more ≠ []) : Continues more := by
  obtain ⟨pieces, hcut, hpieces, hlast⟩ := h
  exact continues_of_pieces hpieces hlast hcut hdone hmore

section

variable {t : Terminal} {lexeme rest cs : List Char}

/-- Only keywords and shortened IRIs begin with a letter. -/
theorem kind_of_isAlpha {ch : Char} (h : t.begins ch = true) (halpha : ch.isAlpha = true) :
    t = .prefixName ∨ t = .localName ∨ ∃ w, t = .word w := by
  have hne : ∀ c : Char, c.isAlpha = false → ch ≠ c := fun c hc => ne_of_isAlpha halpha hc
  have hdigit : ch.isDigit = false := isDigit_eq_false_of_isAlpha halpha
  have hsymbols : ∀ s ∈ symbols, ∀ c ∈ s.toList.head?, c.isAlpha = false := by decide
  cases t with
  | prefixName => exact .inl rfl
  | localName => exact .inr (.inl rfl)
  | word w => exact .inr (.inr ⟨w, rfl⟩)
  | symbol s =>
    obtain ⟨hs, hhead⟩ := Terminal.mem_symbols_of_begins h
    exact absurd (hsymbols s hs ch hhead) (by simp [halpha])
  | number sign form =>
    cases sign <;>
      simp [Terminal.begins, hdigit, hne '.' (by decide), hne '+' (by decide), hne '-' (by decide)]
        at h
  | iriRef => exact absurd (of_decide_eq_true h) (hne '<' (by decide))
  | blankLabel => exact absurd (of_decide_eq_true h) (hne '_' (by decide))
  | language => exact absurd (of_decide_eq_true h) (hne '@' (by decide))
  | nil => exact absurd (of_decide_eq_true h) (hne '(' (by decide))
  | anon => exact absurd (of_decide_eq_true h) (hne '[' (by decide))
  | var sigil => simp [Terminal.begins, hne '?' (by decide), hne '$' (by decide)] at h
  | string quote | longString quote =>
    simp [Terminal.begins, hne '"' (by decide), hne '\'' (by decide)] at h

/-- Only numbers begin with a digit. -/
theorem kind_of_isDigit {ch : Char} (h : t.begins ch = true) (hdigit : ch.isDigit = true) :
    ∃ form, t = .number none form := by
  have hrange : 0x30 ≤ ch.toNat ∧ ch.toNat ≤ 0x39 := Char.isDigit_iff_toNat.1 hdigit
  have hne : ∀ c : Char, c.isDigit = false → ch ≠ c := by
    rintro c hc rfl
    exact absurd hdigit (by simp [hc])
  have hletter : isNameLetter ch = false ∧ ch.isAlpha = false := by
    constructor
    · simp [isNameLetter, inRanges]
      omega
    · rw [Bool.eq_false_iff, Ne, isAlpha_iff_toNat]
      omega
  have hsymbols : ∀ s ∈ symbols, ∀ c ∈ s.toList.head?, c.isDigit = false := by decide
  cases t with
  | number sign form =>
    cases sign with
    | none => exact ⟨form, rfl⟩
    | some sign => simp [Terminal.begins, hne '+' (by decide), hne '-' (by decide)] at h
  | symbol s =>
    obtain ⟨hs, hhead⟩ := Terminal.mem_symbols_of_begins h
    exact absurd (hsymbols s hs ch hhead) (by simp [hdigit])
  | prefixName | localName => simp [Terminal.begins, hletter, hne ':' (by decide)] at h
  | word w => simp [Terminal.begins, hletter] at h
  | iriRef => exact absurd (of_decide_eq_true h) (hne '<' (by decide))
  | blankLabel => exact absurd (of_decide_eq_true h) (hne '_' (by decide))
  | language => exact absurd (of_decide_eq_true h) (hne '@' (by decide))
  | nil => exact absurd (of_decide_eq_true h) (hne '(' (by decide))
  | anon => exact absurd (of_decide_eq_true h) (hne '[' (by decide))
  | var sigil => simp [Terminal.begins, hne '?' (by decide), hne '$' (by decide)] at h
  | string quote | longString quote =>
    simp [Terminal.begins, hne '"' (by decide), hne '\'' (by decide)] at h

/-- What begins with a letter is like a name. -/
theorem isNameLike_of_alpha (h : t.Matches cs) (halpha : ∃ ch ∈ cs.head?, ch.isAlpha = true) :
    IsNameLike cs := by
  obtain ⟨ch, hch, halpha⟩ := halpha
  obtain ⟨first, others, rfl, hbegins⟩ := h.begins
  obtain rfl : first = ch := Option.some.inj hch
  rcases kind_of_isAlpha hbegins halpha with rfl | rfl | ⟨w, rfl⟩
  · obtain ⟨label, hcs, hlabel⟩ := h
    rw [hcs]
    exact isNameLike_shortened hlabel (.inl rfl)
  · obtain ⟨label, name, hcs, hlabel, hname⟩ := h
    rw [hcs]
    exact isNameLike_shortened hlabel (.inr hname)
  · obtain ⟨-, -, hchars⟩ := h
    exact isNameLike_of_variableChars fun ch hch => isVariableChar_of_isAlphanum (hchars ch hch)

/-- A keyword or a shortened IRI ends where no name goes on. -/
theorem longest_of_delimited (hfirst : ∃ ch ∈ lexeme.head?, ch.isAlpha = true)
    (hplain : ∀ ch ∈ lexeme, ch ≠ '%' ∧ ch ≠ '\\') (hrest : Delimited rest) :
    IsLongest lexeme rest := by
  intro t more hmatches hmore
  refine hrest.eq_nil hmore fun hne => ?_
  have hlike : IsNameLike (lexeme ++ more) := by
    refine isNameLike_of_alpha hmatches ?_
    obtain ⟨ch, hch, halpha⟩ := hfirst
    cases lexeme with
    | nil => exact absurd hch (by simp)
    | cons first others => exact ⟨ch, hch, halpha⟩
  exact hlike.continues hplain hne

/-- A variable ends where no name goes on. -/
theorem longest_variable {name : List Char} (hne : name ≠ [])
    (hchars : ∀ ch ∈ name, isVariableChar ch = true) (hrest : Delimited rest) :
    IsLongest ('?' :: name) rest := by
  intro t more hmatches hmore
  refine hrest.eq_nil hmore fun hmorene => ?_
  obtain ⟨first, others, hcs, hbegins⟩ := hmatches.begins
  obtain rfl : '?' = first := (List.cons.inj hcs).1
  have hplain : ∀ ch ∈ name, ch ≠ '%' ∧ ch ≠ '\\' := by
    intro ch hch
    constructor <;> rintro rfl <;> exact absurd (hchars _ hch) (by decide)
  cases t with
  | var sigil =>
    obtain ⟨-, name', hname, -, hchars'⟩ := hmatches
    obtain ⟨-, rfl⟩ := List.cons.inj hname
    exact (isNameLike_of_variableChars hchars').continues hplain hmorene
  | symbol s =>
    obtain ⟨hs, hs'⟩ := hmatches
    have hone : ∀ s ∈ symbols, s.toList.head? = some '?' → s.toList = ['?'] := by decide
    have hlist := hone s hs (by rw [← hs']; rfl)
    exact absurd (hs'.trans hlist) (by simp [hne])
  | number sign form => cases sign <;> exact absurd hbegins (by simp +decide [Terminal.begins])
  | _ => exact absurd hbegins (by simp +decide [Terminal.begins])

/-- A label ends where no name goes on. -/
theorem longest_label {label : List Char} (hplain : ∀ ch ∈ label, ch ≠ '%' ∧ ch ≠ '\\')
    (hrest : Delimited rest) : IsLongest ('_' :: ':' :: label) rest := by
  intro t more hmatches hmore
  refine hrest.eq_nil hmore fun hmorene => ?_
  obtain ⟨first, others, hcs, hbegins⟩ := hmatches.begins
  obtain rfl : '_' = first := (List.cons.inj hcs).1
  cases t with
  | blankLabel =>
    obtain ⟨label', hlabel, -, hchars, hlast⟩ := hmatches
    obtain ⟨-, htail⟩ := List.cons.inj hlabel
    obtain ⟨-, rfl⟩ := List.cons.inj htail
    exact (isNameLike_of_chars (fun ch hch => by simp [hchars ch hch]) hlast).continues hplain
      hmorene
  | symbol s =>
    obtain ⟨hs, hhead⟩ := Terminal.mem_symbols_of_begins hbegins
    have hnone : ∀ s ∈ symbols, '_' ∉ s.toList.head? := by decide
    exact absurd hhead (hnone s hs)
  | number sign form => cases sign <;> exact absurd hbegins (by simp +decide [Terminal.begins])
  | _ => exact absurd hbegins (by simp +decide [Terminal.begins])

end

/-! ## IRIs, strings and numbers -/

/-- An IRI in angle brackets ends with its bracket. -/
theorem longest_bracketed {iri : List Char} (hiri : ∀ ch ∈ iri, isIriChar ch = true)
    (rest : List Char) : IsLongest ('<' :: (iri ++ ['>'])) rest := by
  intro t more hmatches _
  obtain ⟨first, others, hcs, hbegins⟩ := hmatches.begins
  obtain rfl : '<' = first := (List.cons.inj hcs).1
  cases t with
  | iriRef =>
    obtain ⟨iri', hiri', hchars'⟩ := hmatches
    have hcut : iri ++ '>' :: more = iri' ++ ['>'] := by simpa using hiri'
    rcases List.append_eq_append_iff.1 hcut with ⟨middle, hmiddle, htail⟩ | ⟨middle, rfl, htail⟩
    · cases middle with
      | nil => simpa using htail
      | cons ch middle =>
        obtain rfl : '>' = ch := (List.cons.inj htail).1
        have hmem : '>' ∈ iri' := by simp [hmiddle]
        exact absurd (hchars' _ hmem) (by decide)
    · cases middle with
      | nil => simpa using htail.symm
      | cons ch middle => exact absurd htail (by simp)
  | symbol s =>
    obtain ⟨hs, hs'⟩ := hmatches
    have hshort : ∀ s ∈ symbols, s.toList.head? = some '<' →
        s.toList = ['<'] ∨ s.toList = ['<', '='] := by decide
    rcases hshort s hs (by rw [← hs']; rfl) with hlist | hlist <;> rw [hlist] at hs'
    · simp at hs'
    · cases iri <;> simp at hs'
  | number sign form => cases sign <;> exact absurd hbegins (by simp +decide [Terminal.begins])
  | _ => exact absurd hbegins (by simp +decide [Terminal.begins])

/-- A string ends with its quotation mark. -/
theorem stringPieces_cut {quote : Char} (hquote : quote ≠ '\\') {pieces pieces' : List (List Char)}
    {more : List Char} (hpieces : ∀ p ∈ pieces, StringPiece quote p)
    (hpieces' : ∀ p ∈ pieces', StringPiece quote p)
    (h : pieces.flatten ++ quote :: more = pieces'.flatten ++ [quote]) : more = [] := by
  have hbegins : ∀ {p : List Char}, StringPiece quote p → ∃ ch rest, p = ch :: rest ∧ ch ≠ quote := by
    intro p hp
    cases hp with
    | char hch _ _ _ => exact ⟨_, _, rfl, hch⟩
    | escape _ => exact ⟨_, _, rfl, hquote.symm⟩
  induction pieces generalizing pieces' with
  | nil =>
    cases pieces' with
    | nil => simpa using h
    | cons p' pieces' =>
      obtain ⟨ch, rest, rfl, hch⟩ := hbegins (hpieces' p' (List.mem_cons_self ..))
      exact absurd (List.cons.inj h).1.symm hch
  | cons p pieces ih =>
    obtain ⟨hp, hothers⟩ := List.forall_mem_cons.1 hpieces
    cases pieces' with
    | nil =>
      obtain ⟨ch, rest, rfl, hch⟩ := hbegins hp
      exact absurd (List.cons.inj h).1 hch
    | cons p' pieces' =>
      obtain ⟨hp', hothers'⟩ := List.forall_mem_cons.1 hpieces'
      refine ih hothers hothers' ?_
      cases hp with
      | char _ hch _ _ =>
        cases hp' with
        | char _ _ _ _ => exact (List.cons.inj h).2
        | escape _ => exact absurd (List.cons.inj h).1 hch
      | escape _ =>
        cases hp' with
        | char _ hch _ _ => exact absurd (List.cons.inj h).1.symm hch
        | escape _ => exact (List.cons.inj (List.cons.inj h).2).2

theorem longest_quoted {pieces : List (List Char)} {rest : List Char}
    (hpieces : ∀ p ∈ pieces, StringPiece '"' p) (hrest : rest.head? ≠ some '"') :
    IsLongest ('"' :: (pieces.flatten ++ ['"'])) rest := by
  intro t more hmatches hmore
  obtain ⟨first, others, hcs, hbegins⟩ := hmatches.begins
  obtain rfl : '"' = first := (List.cons.inj hcs).1
  cases t with
  | string quote =>
    obtain ⟨-, pieces', hpieces', hall⟩ := hmatches
    obtain ⟨rfl, hcut⟩ := List.cons.inj hpieces'
    exact stringPieces_cut (by decide) hpieces hall (by simpa using hcut)
  | longString quote =>
    -- three quotation marks would begin with the empty string and one more mark
    obtain ⟨-, pieces', hpieces', -⟩ := hmatches
    obtain ⟨rfl, hcut⟩ := List.cons.inj hpieces'
    cases pieces with
    | nil =>
      obtain ⟨after, rfl⟩ := hmore
      cases more with
      | nil => rfl
      | cons ch more =>
        have hch : ch = '"' := by simpa using (List.cons.inj (List.cons.inj hcut).2).1
        exact absurd (by simp [hch]) hrest
    | cons p pieces =>
      cases hpieces p (List.mem_cons_self ..) with
      | char hch _ _ _ => exact absurd (List.cons.inj hcut).1 hch
      | escape _ => exact absurd (List.cons.inj hcut).1 (by decide)
  | symbol s =>
    obtain ⟨hs, hhead⟩ := Terminal.mem_symbols_of_begins hbegins
    have hnone : ∀ s ∈ symbols, '"' ∉ s.toList.head? := by decide
    exact absurd hhead (hnone s hs)
  | number sign form => cases sign <;> exact absurd hbegins (by simp +decide [Terminal.begins])
  | _ => exact absurd hbegins (by simp +decide [Terminal.begins])

/-- The characters of numbers. -/
def isNumeric (ch : Char) : Bool := ch.isDigit || ['.', 'e', 'E', '+', '-'].contains ch

theorem NumberForm.Matches.isNumeric {form : NumberForm} {cs : List Char} (h : form.Matches cs) :
    ∀ ch ∈ cs, isNumeric ch = true := by
  have hdigits : ∀ {ds : List Char}, (∀ ch ∈ ds, ch.isDigit = true) →
      ∀ ch ∈ ds, WikibaseQuery.isNumeric ch = true := by
    intro ds hds ch hch
    simp [WikibaseQuery.isNumeric, hds ch hch]
  have hpoint : ∀ {whole part : List Char}, (∀ ch ∈ whole, ch.isDigit = true) →
      (∀ ch ∈ part, ch.isDigit = true) →
        ∀ ch ∈ whole ++ '.' :: part, WikibaseQuery.isNumeric ch = true := by
    intro whole part hwhole hpart
    exact List.forall_mem_append.2 ⟨hdigits hwhole, List.forall_mem_cons.2
      ⟨by decide, hdigits hpart⟩⟩
  cases form with
  | integer => exact hdigits h.2
  | decimal =>
    obtain ⟨whole, part, rfl, hwhole, hpart⟩ := h
    exact hpoint hwhole hpart.2
  | double =>
    obtain ⟨mantissa, exponent, rfl, ⟨mark, sign, digits, rfl, hmark, hsign, hexponent⟩, h⟩ := h
    refine List.forall_mem_append.2 ⟨?_, List.forall_mem_cons.2 ⟨?_, List.forall_mem_append.2
      ⟨?_, hdigits hexponent.2⟩⟩⟩
    · rcases h with hinteger | ⟨whole, part, rfl, hwhole, hpart, -⟩
      · exact hdigits hinteger.2
      · exact hpoint hwhole hpart
    · rcases hmark with rfl | rfl <;> decide
    · rcases hsign with rfl | rfl | rfl <;> decide

/-- An integer ends where no number goes on. -/
theorem longest_integer {digits rest : List Char} (hdigits : IsInteger digits)
    (hrest : ∀ ch ∈ rest.head?, isNumeric ch = false) : IsLongest digits rest := by
  intro t more hmatches hmore
  obtain ⟨hne, hall⟩ := hdigits
  obtain ⟨digit, others, rfl⟩ := List.exists_cons_of_ne_nil hne
  obtain ⟨first, tail, hcs, hbegins⟩ := hmatches.begins
  obtain rfl : digit = first := (List.cons.inj hcs).1
  obtain ⟨form, rfl⟩ := kind_of_isDigit hbegins (hall digit (List.mem_cons_self ..))
  obtain ⟨-, digits', hdigits', hform⟩ := hmatches
  rw [Option.toList_none, List.nil_append] at hdigits'
  cases more with
  | nil => rfl
  | cons ch more =>
    have hnumeric : isNumeric ch = true := hform.isNumeric ch (by rw [← hdigits']; simp)
    obtain ⟨after, rfl⟩ := hmore
    exact absurd hnumeric (by simp [hrest ch rfl])

/-! ## Symbols -/

/-- The characters that would make another symbol of this one. -/
def symbolExtensions (s : String) : List Char :=
  symbols.filterMap fun s' =>
    if s.toList <+: s'.toList then (s'.toList.drop s.toList.length).head? else none

/-- The characters that would make something else of a symbol that begins with `first`. -/
def joins (first ch : Char) : Bool :=
  match first with
  | '(' => isSpace ch || ch = ')'
  | '[' => isSpace ch || ch = ']'
  | '.' => ch.isDigit
  | '+' | '-' => ch.isDigit || ch = '.'
  | '?' => isNameInitial ch
  | '<' => isIriChar ch || ch = '>'
  | _ => false

/-- A number that begins with its point goes on with a digit. -/
theorem NumberForm.Matches.isDigit_of_point {form : NumberForm} {ch : Char} {cs : List Char}
    (h : form.Matches ('.' :: ch :: cs)) : ch.isDigit = true := by
  have hwhole : ∀ whole part : List Char, '.' :: ch :: cs = whole ++ '.' :: part →
      (∀ c ∈ whole, c.isDigit = true) → whole = [] ∧ part = ch :: cs := by
    rintro (_ | ⟨c, whole⟩) part heq hdigits
    · exact ⟨rfl, (List.cons.inj heq).2.symm⟩
    · obtain rfl : '.' = c := (List.cons.inj heq).1
      exact absurd (hdigits '.' (List.mem_cons_self ..)) (by decide)
  cases form with
  | integer => exact absurd (h.2 '.' (List.mem_cons_self ..)) (by decide)
  | decimal =>
    obtain ⟨whole, part, heq, hdigits, hpart⟩ := h
    obtain ⟨-, rfl⟩ := hwhole whole part heq hdigits
    exact hpart.2 ch (List.mem_cons_self ..)
  | double =>
    obtain ⟨mantissa, exponent, heq, -, hinteger | ⟨whole, part, rfl, hdigits, hpart, hne⟩⟩ := h
    · obtain ⟨c, rest, rfl⟩ := List.exists_cons_of_ne_nil hinteger.1
      obtain rfl : '.' = c := (List.cons.inj heq).1
      exact absurd (hinteger.2 '.' (List.mem_cons_self ..)) (by decide)
    · obtain ⟨rfl, hrest⟩ := hwhole whole (part ++ exponent) (by simpa using heq) hdigits
      obtain ⟨c, rest, rfl⟩ := List.exists_cons_of_ne_nil (hne.resolve_left fun hnil => hnil rfl)
      obtain rfl : c = ch := (List.cons.inj hrest).1
      exact hpart c (List.mem_cons_self ..)

/-- A character between two marks has the property of those between them, or is the second mark. -/
theorem inside_or_eq_last {p : Char → Bool} {before after inside : List Char} {ch last : Char}
    (h : before ++ ch :: after = inside ++ [last]) (hinside : ∀ c ∈ inside, p c = true) :
    p ch = true ∨ ch = last := by
  have hmem : ch ∈ inside ++ [last] := by rw [← h]; simp
  exact (List.mem_append.1 hmem).imp (hinside ch) List.mem_singleton.1

/-- A variable begins with its sigil and goes on with its name. -/
theorem joins_of_var {sigil first ch : Char} {cs : List Char} (hne : first ≠ '$')
    (h : (Terminal.var sigil).Matches (first :: ch :: cs)) : joins first ch = true := by
  obtain ⟨hsigil, name, hname, hinitial, -⟩ := h
  obtain ⟨rfl, rfl⟩ := List.cons.inj hname
  obtain rfl := hsigil.resolve_right hne
  simpa [joins] using hinitial

/-- A number begins with its sign or with its point where it does not begin with a digit. -/
theorem joins_of_number {sign : Option Char} {form : NumberForm} {first ch : Char} {cs : List Char}
    (hdigit : first.isDigit = false) (h : (Terminal.number sign form).Matches (first :: ch :: cs)) :
    joins first ch = true := by
  obtain ⟨hsign, digits, hdigits, hform⟩ := h
  cases sign with
  | none =>
    obtain rfl : first :: ch :: cs = digits := hdigits
    obtain ⟨c, rest, hc, hbegin⟩ := hform.begins
    obtain rfl : first = c := (List.cons.inj hc).1
    obtain rfl : first = '.' := by simpa [hdigit] using hbegin
    exact hform.isDigit_of_point
  | some sign =>
    obtain ⟨rfl, rfl⟩ := List.cons.inj hdigits
    obtain ⟨c, rest, hc, hbegin⟩ := hform.begins
    obtain rfl : ch = c := (List.cons.inj hc).1
    have hmark : first = '+' ∨ first = '-' := by simpa using hsign
    rcases hmark with rfl | rfl <;> exact hbegin

theorem mem_symbolExtensions {s s' : String} {ch : Char} {cs : List Char} (hs' : s' ∈ symbols)
    (h : s'.toList = s.toList ++ ch :: cs) : ch ∈ symbolExtensions s := by
  refine List.mem_filterMap.2 ⟨s', hs', ?_⟩
  rw [if_pos (h ▸ List.prefix_append _ _), h, List.drop_left]
  rfl

/-- The first character of a symbol begins no word, no name and no text. -/
theorem symbol_first {s : String} {first : Char} {tail : List Char} (hs : s ∈ symbols)
    (htail : s.toList = first :: tail) :
    isNameLetter first = false ∧ first.isAlpha = false ∧ first.isDigit = false ∧
      first ∉ [':', '_', '@', '"', '\'', '$'] := by
  have hall : ∀ s ∈ symbols, ∀ c ∈ s.toList.head?, isNameLetter c = false ∧ c.isAlpha = false ∧
      c.isDigit = false ∧ c ∉ [':', '_', '@', '"', '\'', '$'] := by decide
  exact hall s hs first (by rw [htail]; rfl)

/-- The symbols that a variable or a number may begin with have one character. -/
theorem symbol_single {s : String} {first : Char} {tail : List Char} (hs : s ∈ symbols)
    (htail : s.toList = first :: tail) (hmem : first ∈ ['?', '.', '+', '-']) : tail = [] := by
  have hall : ∀ s ∈ symbols, ∀ c ∈ s.toList.head?, c ∈ ['?', '.', '+', '-'] →
      s.toList = [c] := by decide
  simpa [htail] using hall s hs first (by rw [htail]; rfl) hmem

/-- A number that does not begin with a digit begins with its point or its sign. -/
theorem mem_of_begins_number {sign : Option Char} {form : NumberForm} {first : Char}
    (hdigit : first.isDigit = false) (h : (Terminal.number sign form).begins first = true) :
    first ∈ ['.', '+', '-'] := by
  cases sign with
  | none =>
    have hpoint : first = '.' := by simpa [Terminal.begins, hdigit] using h
    simp [hpoint]
  | some sign =>
    obtain ⟨hmark, -⟩ : (first = '+' ∨ first = '-') ∧ first = sign := by
      simpa [Terminal.begins] using h
    rcases hmark with rfl | rfl <;> decide

/-- What goes on after a symbol is a longer symbol, or what its first character opens. -/
theorem Terminal.Matches.extends_or_joins {t : Terminal} {s : String} {first ch : Char}
    {tail more : List Char} (hs : s ∈ symbols) (htail : s.toList = first :: tail)
    (h : t.Matches (first :: (tail ++ ch :: more))) :
    ch ∈ symbolExtensions s ∨ joins first ch = true := by
  obtain ⟨hletter, halpha, hdigit, hother⟩ := symbol_first hs htail
  obtain ⟨first', others, hcs, hbegins⟩ := h.begins
  obtain rfl : first = first' := (List.cons.inj hcs).1
  cases t with
  | iriRef =>
    obtain ⟨iri, hiri, hchars⟩ := h
    obtain ⟨rfl, hcut⟩ := List.cons.inj hiri
    exact .inr (by simpa [joins] using inside_or_eq_last hcut hchars)
  | nil | anon =>
    obtain ⟨blanks, hblanks, hchars⟩ := h
    obtain ⟨rfl, hcut⟩ := List.cons.inj hblanks
    exact .inr (by simpa [joins] using inside_or_eq_last hcut hchars)
  | var sigil =>
    have hne : first ≠ '$' := fun heq => hother (by simp [heq])
    obtain ⟨hmark, -⟩ : first = '?' ∧ first = sigil := by simpa [Terminal.begins, hne] using hbegins
    obtain rfl := symbol_single hs htail (by simp [hmark])
    exact .inr (joins_of_var hne h)
  | number sign form =>
    have hmark := mem_of_begins_number hdigit hbegins
    obtain rfl := symbol_single hs htail (List.mem_cons_of_mem _ hmark)
    exact .inr (joins_of_number hdigit h)
  | symbol s' =>
    obtain ⟨hs', hcut⟩ := h
    have hlonger : s'.toList = s.toList ++ ch :: more := by rw [htail, ← hcut, List.cons_append]
    exact .inl (mem_symbolExtensions hs' hlonger)
  | prefixName | localName => simp_all [Terminal.begins]
  | word w => simp_all [Terminal.begins]
  | blankLabel | language | string quote | longString quote => simp_all [Terminal.begins]

/-- A symbol ends where the next character makes nothing else of it. -/
theorem longest_symbol {s : String} {rest : List Char} (hs : s ∈ symbols)
    (hextends : ∀ ch ∈ rest.head?, ch ∉ symbolExtensions s)
    (hjoins : ∀ ch ∈ rest.head?, ∀ first ∈ s.toList.head?, joins first ch = false) :
    IsLongest s.toList rest := by
  intro t more hmatches hmore
  cases more with
  | nil => rfl
  | cons ch more =>
    obtain ⟨after, rfl⟩ := hmore
    have hne : ∀ s ∈ symbols, s.toList ≠ [] := by decide
    obtain ⟨first, tail, htail⟩ := List.exists_cons_of_ne_nil (hne s hs)
    rw [htail, List.cons_append] at hmatches
    rcases hmatches.extends_or_joins hs htail with hlonger | hjoin
    · exact absurd hlonger (hextends ch rfl)
    · exact absurd hjoin (by simp [hjoins ch rfl first (by rw [htail]; rfl)])

end WikibaseQuery

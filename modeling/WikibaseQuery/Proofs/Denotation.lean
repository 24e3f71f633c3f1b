import WikibaseQuery.Proofs.Scanning
import WikibaseQuery.Proofs.Spelling

/-!
# What a written IRI stands for

An IRI is printed in full or behind a label, and the label is declared on a line of its own.  Both
places escape what may not stand between angle brackets, each for itself.  They agree: whoever puts
the declared beginning before the local name gets the IRI that would have been printed in full.

* `escapeIri_eq_self_iff`, `escapeIri_escapeIri` — what escaping leaves alone;
* `lines_declarations`, `mem_declarations` — a label is declared on one line;
* `writeIri_denotes` — the IRI that is written.
-/

namespace WikibaseQuery

/-! ## Escaping -/

theorem escapeIri_append (cs ds : List Char) :
    escapeIri (cs ++ ds) = escapeIri cs ++ escapeIri ds :=
  List.flatMap_append

/-- Escaping changes nothing exactly where nothing is forbidden. -/
theorem escapeIri_eq_self_iff (cs : List Char) :
    escapeIri cs = cs ↔ ∀ ch ∈ cs, isForbiddenInIri ch = false := by
  constructor
  · intro h
    rw [← h]
    exact not_forbidden_escapeIri cs
  · exact escapeIri_eq_self

/-- Escaping twice is escaping once, since a percent sign is no forbidden character. -/
theorem escapeIri_escapeIri (cs : List Char) : escapeIri (escapeIri cs) = escapeIri cs :=
  escapeIri_eq_self (not_forbidden_escapeIri cs)

/-- The characters of labels and local names stand in IRIs as they are. -/
theorem not_forbidden_of_isLabelChar {ch : Char} (h : isLabelChar ch = true) :
    isForbiddenInIri ch = false := by
  by_contra hforbidden
  rw [Bool.not_eq_false] at hforbidden
  have hascii : ∀ k < 128, isForbiddenInIri (Char.ofNat k) = true →
      isLabelChar (Char.ofNat k) = false := by decide
  have hlabel := hascii ch.toNat (toNat_lt_of_forbidden hforbidden)
  rw [Char.ofNat_toNat, h] at hlabel
  exact Bool.false_ne_true (hlabel hforbidden).symm

/-! ## Declarations -/

/-- The line that declares a label to stand for the IRI between the angle brackets. -/
def declarationLine (label : String) (iri : List Char) : List Char :=
  "PREFIX ".toList ++ (label.toList ++ ':' :: ' ' :: '<' :: (iri ++ ['>']))

/-- A line declares one label for one IRI. -/
theorem declarationLine_inj {label label' : String} {iri iri' : List Char} (hl : IsWord label)
    (hl' : IsWord label') (h : declarationLine label iri = declarationLine label' iri') :
    label = label' ∧ iri = iri' := by
  unfold declarationLine at h
  obtain ⟨hlabel, hname⟩ := label_append_inj hl hl' ((List.append_right_inj _).1 h)
  simp only [List.cons.injEq, true_and, List.append_cancel_right_eq] at hname
  exact ⟨hlabel, hname⟩

section

variable {table : List Shorthand} (htable : LabelsFit table)
include htable

/-- The declarations take a line for each shorthand, and whatever follows begins on a line of its
own. -/
theorem lines_declarations_append (rest : List Char) :
    lines (declarations table ++ rest) =
      table.map (fun s => declarationLine s.label (escapeIri s.base.toList)) ++ lines rest := by
  induction table with
  | nil => rfl
  | cons s table ih =>
    obtain ⟨⟨hne, hlabel⟩, hothers⟩ := List.forall_mem_cons.1 htable
    have hline : "PREFIX ".toList ++ s.label.toList ++ ": ".toList ++ bracketedIri s.base.toList =
        declarationLine s.label (escapeIri s.base.toList) := by
      unfold declarationLine bracketedIri
      simp
    have hbreak := (row_declaration hne hlabel).noBreak
    rw [hline] at hbreak
    have hcons : declarations (s :: table) ++ rest =
        declarationLine s.label (escapeIri s.base.toList) ++
          '\n' :: (declarations table ++ rest) := by
      rw [declarations, List.flatMap_cons, hline]
      simp [line, indent, declarations]
    rw [hcons, lines_append_break hbreak, ih hothers, List.map_cons, List.cons_append]

theorem lines_declarations : lines (declarations table) =
    table.map (fun s => declarationLine s.label (escapeIri s.base.toList)) := by
  have hall := lines_declarations_append htable []
  rwa [lines, List.append_nil, List.append_nil] at hall

/-- **A label is declared once**, to stand for its beginning of IRIs, escaped. -/
theorem mem_declarations (hlabels : (table.map Shorthand.label).Nodup) {s : Shorthand}
    (hs : s ∈ table) (iri : List Char) :
    declarationLine s.label iri ∈ lines (declarations table) ↔ iri = escapeIri s.base.toList := by
  rw [lines_declarations htable, List.mem_map]
  constructor
  · rintro ⟨s', hs', hline⟩
    obtain ⟨hlabel, rfl⟩ := declarationLine_inj (htable s' hs').2 (htable s hs).2 hline
    rw [List.inj_on_of_nodup_map hlabels hs' hs hlabel]
  · rintro rfl
    exact ⟨s, hs, rfl⟩

end

/-! ## IRIs -/

/-- What a label and a local name after it stand for, given the lines that declare the labels. -/
structure Abbreviates (declared : List (List Char)) (label : String) (name iri : List Char) :
    Prop where
  /-- The local name is one of SPARQL, or empty. -/
  isLocal : name = [] ∨ IsLocal name
  /-- It has no percent sign and no backslash, by which a character is escaped. -/
  unescaped : ∀ ch ∈ name, isLabelChar ch = true
  noDot : name.getLast? ≠ some '.'
  /-- One line declares the label, and the local name continues the IRI on it. -/
  continues : ∃ beginning, (∀ other, declarationLine label other ∈ declared ↔ other = beginning) ∧
    beginning ++ name = iri

theorem abbreviates {table : List Shorthand} (htable : LabelsFit table)
    (hlabels : (table.map Shorthand.label).Nodup) {s : Shorthand} (hs : s ∈ table)
    {name : List Char} (hname : isLocalName name = true) :
    Abbreviates (lines (declarations table)) s.label name (escapeIri (s.base.toList ++ name)) := by
  obtain ⟨hchars, hlast, -⟩ := isLocalName_chars hname
  have hplain : ∀ ch ∈ name, isForbiddenInIri ch = false :=
    fun ch hch => not_forbidden_of_isLabelChar (hchars ch hch).1
  refine ⟨?_, fun ch hch => (hchars ch hch).1, hlast, escapeIri s.base.toList,
    mem_declarations htable hlabels hs, ?_⟩
  · by_cases hnil : name = []
    · exact .inl hnil
    · exact .inr (isLocal_of_isLocalName hname hnil)
  · rw [escapeIri_append, escapeIri_eq_self hplain]

/-- **What is written stands for the IRI.**  Between angle brackets stands the escaped IRI, and
nothing that is forbidden there; or a label and a local name abbreviate it by the lines that come
first where a query declares its labels.  Escaping is idempotent, and changes nothing exactly where
nothing is to be escaped. -/
theorem writeIri_denotes (n : Namespaces) :
    (∀ i : Iri,
      (writeIri n.shorthands i = '<' :: (escapeIri i.text.toList ++ ['>']) ∧
        ∀ ch ∈ escapeIri i.text.toList, isIriChar ch = true) ∨
      ∃ label name, writeIri n.shorthands i = label.toList ++ ':' :: name ∧
        Abbreviates (lines (declarations n.shorthands)) label name (escapeIri i.text.toList)) ∧
    (∀ q : SelectQuery, lines (q.print n.shorthands true) =
      lines (declarations n.shorthands) ++ lines (q.print n.shorthands false)) ∧
    ∀ cs : List Char, escapeIri (escapeIri cs) = escapeIri cs ∧
      (escapeIri cs = cs ↔ ∀ ch ∈ cs, isForbiddenInIri ch = false) := by
  have htable : LabelsFit n.shorthands := labelsFit_shorthands n
  have hlabels : (n.shorthands.map Shorthand.label).Nodup := by
    rw [map_label_shorthands]
    decide
  refine ⟨fun i => ?_, fun q => ?_, fun cs => ⟨escapeIri_escapeIri cs, escapeIri_eq_self_iff cs⟩⟩
  · rcases writeIri_cases n.shorthands i with hfull | ⟨s, hs, name, hname, htext, hshort⟩
    · exact .inl ⟨hfull, isIriChar_escapeIri _⟩
    · refine .inr ⟨s.label, name, hshort, ?_⟩
      rw [htext]
      exact abbreviates htable hlabels hs hname
  · rw [lines_declarations htable]
    exact lines_declarations_append htable _

end WikibaseQuery

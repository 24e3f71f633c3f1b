import WikibaseQuery.Proofs.Spelling

/-!
# The label that shortens an IRI

Some namespaces begin like others: the statements of a property lie below its claims, and their
values below the statements.  An IRI that is built from a namespace is yet shortened by the label of
that namespace, and of no other one.  Every namespace of Wikidata ends in a slash or a number sign,
which no local name has, so that no other beginning can reach into the name.

* `exists_longestFit`, `longestFit_eq_some` — which shorthand is chosen;
* `isPrefix_of_append` — a beginning that ends in a delimiter does not reach into a local name;
* `writeIri_eq_shortened_iff` — an IRI of a table of such beginnings is shortened by its own label
  exactly where a local name follows;
* `Namespaces.writeIri_built` — the IRIs that are built with the namespaces of Wikidata.
-/

namespace WikibaseQuery

/-! ## The longest shorthand -/

/-- What fits is no longer than the shorthand that is chosen. -/
theorem exists_longestFit {table : List Shorthand} {cs : List Char} {t : Shorthand}
    (ht : t ∈ table) (hfits : t.fits cs = true) :
    ∃ s, longestFit table cs = some s ∧ t.base.length ≤ s.base.length := by
  -- The induction is on the table, for whatever is held before it: what is held counts as well.
  have hfold : ∀ (table : List Shorthand) (best : Option Shorthand) (t : Shorthand),
      best = some t ∨ t ∈ table ∧ t.fits cs = true →
      ∃ s, table.foldl (fun best s =>
          if s.fits cs && best.all (fun b => b.base.length ≤ s.base.length) then some s else best)
        best = some s ∧ t.base.length ≤ s.base.length := by
    intro table
    induction table with
    | nil =>
      rintro best t (hbest | ⟨hmem, -⟩)
      · exact ⟨t, hbest, le_rfl⟩
      · exact absurd hmem List.not_mem_nil
    | cons u others ih =>
      intro best t ht
      rw [List.foldl_cons]
      split
      · rename_i htaken
        obtain ⟨-, hle⟩ := Bool.and_eq_true_iff.1 htaken
        obtain ⟨s, hs, hus⟩ := ih (some u) u (.inl rfl)
        rcases ht with rfl | ⟨hmem, hfits⟩
        · exact ⟨s, hs, le_trans (by simpa using hle) hus⟩
        · rcases List.mem_cons.1 hmem with rfl | hmem
          · exact ⟨s, hs, hus⟩
          · exact ih (some u) t (.inr ⟨hmem, hfits⟩)
      · rename_i hkept
        rcases ht with hbest | ⟨hmem, hfits⟩
        · exact ih best t (.inl hbest)
        · rcases List.mem_cons.1 hmem with rfl | hmem
          · -- It fits, so that it was left for a longer one.
            cases best with
            | none => exact absurd (by simp [hfits]) hkept
            | some b =>
              have hlt : t.base.length < b.base.length := by simpa [hfits] using hkept
              obtain ⟨s, hs, hbs⟩ := ih (some b) b (.inl rfl)
              exact ⟨s, hs, hlt.le.trans hbs⟩
          · exact ih best t (.inr ⟨hmem, hfits⟩)
  exact hfold table none t (.inr ⟨ht, hfits⟩)

/-- **The shorthand that is chosen** is the one that is longer than all others that fit. -/
theorem longestFit_eq_some {table : List Shorthand} {cs : List Char} {s : Shorthand}
    (hs : s ∈ table) (hfits : s.fits cs = true)
    (hlongest : ∀ t ∈ table, t.fits cs = true → t = s ∨ t.base.length < s.base.length) :
    longestFit table cs = some s := by
  obtain ⟨t, ht, hle⟩ := exists_longestFit hs hfits
  obtain ⟨hmem, htfits⟩ := longestFit_mem ht
  rw [ht, (hlongest t hmem htfits).resolve_right (Nat.not_lt.2 hle)]

/-! ## Beginnings that end in a delimiter -/

/-- The last character is none of a local name. -/
def EndsDelimited (cs : List Char) : Prop := ∃ ch ∈ cs.getLast?, isNameChar ch = false

instance (cs : List Char) : Decidable (EndsDelimited cs) :=
  inferInstanceAs (Decidable (∃ ch ∈ cs.getLast?, isNameChar ch = false))

theorem endsDelimited_ofList {cs : List Char} (h : EndsDelimited cs) :
    EndsDelimited (String.ofList cs).toList := by
  rwa [String.toList_ofList]

/-- **A beginning that ends in a delimiter does not reach into a local name.** -/
theorem isPrefix_of_append {cs ds name : List Char} (hds : EndsDelimited ds)
    (hname : ∀ ch ∈ name, isNameChar ch = true) (h : ds <+: cs ++ name) : ds <+: cs := by
  obtain ⟨rest, hrest⟩ := h
  obtain ⟨middle, rfl, -⟩ | ⟨middle, rfl, hmiddle⟩ := List.append_eq_append_iff.1 hrest
  · exact List.prefix_append ds middle
  · -- What the beginning has beyond `cs` belongs to the name, the delimiter as well.
    rcases List.eq_nil_or_concat middle with rfl | ⟨front, last, rfl⟩
    · simp
    · obtain ⟨ch, hch, hdelimiter⟩ := hds
      obtain rfl : last = ch := by simpa using hch
      have hmem : last ∈ name := by simp [hmiddle]
      exact absurd (hname last hmem) (by simp [hdelimiter])

section

variable {table : List Shorthand} (hends : ∀ s ∈ table, EndsDelimited s.base.toList)
  (hbases : (table.map Shorthand.base).Nodup) {s : Shorthand} (hs : s ∈ table) {name : String}
include hends hbases hs

/-- The shorthand that an IRI was built from is the longest one. -/
theorem longestFit_built (hname : isLocalName name.toList = true) :
    longestFit table (s.base ++ name).toList = some s := by
  have hbase : s.base ≠ "" := by
    rintro hempty
    obtain ⟨ch, hch, -⟩ := hends s hs
    simp [hempty] at hch
  have hfits : s.fits (s.base ++ name).toList = true := by
    simp [Shorthand.fits, hbase]
  refine longestFit_eq_some hs hfits fun t ht htfits => ?_
  have hbegins : t.base.toList <+: s.base.toList := by
    refine isPrefix_of_append (hends t ht) (isNameChar_of_isLocalName hname) ?_
    simpa [Shorthand.fits] using (Bool.and_eq_true_iff.1 htfits).2
  rcases hbegins.length_le.lt_or_eq with hlt | heq
  · exact .inr hlt
  · have hsame := String.toList_inj.1 (hbegins.eq_of_length heq)
    exact .inl (List.inj_on_of_nodup_map hbases ht hs hsame)

/-- **An IRI that is built from a shorthand is shortened by it**, if a local name follows, and only
then. -/
theorem writeIri_eq_shortened_iff (htable : LabelsFit table) :
    writeIri table ⟨s.base ++ name⟩ = s.label.toList ++ ':' :: name.toList ↔
      isLocalName name.toList = true := by
  constructor
  · intro hwritten
    rcases writeIri_cases table ⟨s.base ++ name⟩ with hfull | ⟨t, ht, rest, hrest, -, hshort⟩
    · rw [hfull] at hwritten
      exact absurd hwritten (bracketedIri_ne_shortened htable hs _ _)
    · rw [hshort] at hwritten
      obtain ⟨-, rfl⟩ := label_append_inj (htable t ht).2 (htable s hs).2 hwritten
      exact hrest
  · intro hname
    have hdrop : (s.base ++ name).toList.drop s.base.length = name.toList := by
      rw [String.toList_append, ← String.length_toList, List.drop_left]
    unfold writeIri
    simp only [longestFit_built hends hbases hs hname, hdrop, hname, if_true]

end

/-! ## The IRIs of Wikidata -/

namespace Namespaces

/-- The ways to build an IRI, each with the label of the namespace that it builds from. -/
def builders : List (String × (Namespaces → String → Iri)) :=
  [ ("wd", entity), ("wdt", direct), ("p", claim), ("ps", statement), ("psv", statementValue),
    ("psn", normalizedValue), ("wikibase", ontology), ("prov", provenance), ("bd", service),
    ("hint", queryHint) ]

/-- Every IRI is built from the namespace of its label. -/
theorem exists_shorthand (n : Namespaces) :
    ∀ b ∈ builders, ∃ s ∈ n.shorthands, s.label = b.1 ∧ ∀ id, b.2 n id = ⟨s.base ++ id⟩ := by
  simp [builders, shorthands, entity, direct, claim, statement, statementValue, normalizedValue,
    ontology, provenance, service, queryHint]

/-- The namespaces of Wikidata end in a slash or a number sign. -/
theorem endsDelimited_base : ∀ s ∈ ({} : Namespaces).shorthands, EndsDelimited s.base.toList := by
  simp only [shorthands, List.forall_mem_cons]
  refine ⟨?_, ?_, ?_, ?_, ?_, ?_, ?_, ?_, ?_, ?_, ?_, List.forall_mem_nil _⟩ <;>
    exact endsDelimited_ofList (by decide)

theorem nodup_bases : (({} : Namespaces).shorthands.map Shorthand.base).Nodup := by
  decide

/-- **An IRI of Wikidata is shortened by the label of its own namespace**, however it is built,
exactly where its id is a local name.  The empty id is one. -/
theorem writeIri_built (b : String × (Namespaces → String → Iri)) (hb : b ∈ builders) (id : String) :
    writeIri ({} : Namespaces).shorthands (b.2 {} id) = b.1.toList ++ ':' :: id.toList ↔
      isLocalName id.toList = true := by
  obtain ⟨s, hs, hlabel, hbuilt⟩ := exists_shorthand {} b hb
  rw [hbuilt, ← hlabel]
  exact writeIri_eq_shortened_iff endsDelimited_base nodup_bases hs (labelsFit_shorthands _)

/-- A value in the coherent unit lies below three other namespaces.  With an id, or with none, it
has its own label; what looks like one below its claims has another label than theirs. -/
theorem writeIri_built_normalizedValue :
    ("psn", normalizedValue) ∈ builders ∧ ("p", claim) ∈ builders ∧
    writeIri ({} : Namespaces).shorthands (normalizedValue {} "P2048") = "psn:P2048".toList ∧
    writeIri ({} : Namespaces).shorthands (normalizedValue {} "") = "psn:".toList ∧
    writeIri ({} : Namespaces).shorthands (claim {} "direct/P31") ≠ "p:direct/P31".toList := by
  have hvalue : ("psn", normalizedValue) ∈ builders := by simp [builders]
  have hclaim : ("p", claim) ∈ builders := by simp [builders]
  refine ⟨hvalue, hclaim, (writeIri_built _ hvalue "P2048").2 (by decide),
    (writeIri_built _ hvalue "").2 (by decide), fun hwritten => ?_⟩
  exact absurd ((writeIri_built _ hclaim "direct/P31").1 hwritten) (by decide)

end Namespaces

end WikibaseQuery

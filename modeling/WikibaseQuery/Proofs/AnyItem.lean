import WikibaseQuery.Proofs.Labels
import WikibaseQuery.Proofs.Subtraction

/-!
# Where the pattern for any item stands

Where all patterns of a query take solutions away, a pattern that any item meets comes first.  This
file says of which conditions that is so.  The pattern cannot be mistaken for one of a condition:
the only triple of a condition that has a blank node begins with a statement, and not with the item.

* `Query.anyItem_notMem_body` — conditions make no such pattern, at any depth;
* `Query.anyItem_first_iff` — the pattern comes first exactly if all conditions are negated and none
  of them is an alternative to another.
-/

namespace WikibaseQuery

/-! ## Patterns within patterns -/

/-- A pattern stands within itself. -/
theorem mem_nested_self (p : Pattern) : p ∈ p.nested := by
  cases p <;> simp [Pattern.nested]

/-- What stands among patterns stands within them. -/
theorem mem_nestedIn_of_mem {p : Pattern} {ps : List Pattern} (h : p ∈ ps) : p ∈ nestedIn ps := by
  induction ps with
  | nil => exact absurd h List.not_mem_nil
  | cons q ps ih =>
    rw [nestedIn, List.mem_append]
    rcases List.mem_cons.1 h with rfl | h
    · exact .inl (mem_nested_self _)
    · exact .inr (ih h)

/-- No statement of a condition is named like the item. -/
theorem Variable.item_ne_statement (i : Nat) : item ≠ numbered "statement" i := by
  intro h
  have hfirst := congrArg (fun v : Variable => v.name.toList.head?) h
  simp [item, numbered] at hfirst

namespace Query

variable {s : Settings} {q : Query} {built : Condition × Nat → List Pattern}

/-- Conditions do not make the pattern for any item, at any depth. -/
theorem anyItem_notMem_body (h : q.Builds s built) :
    anyItem s.namespaces ∉ nestedIn (q.body built) := by
  intro hmem
  -- it would be seen among the triples with a blank node, which begin with statements
  have htriple : ⟨Variable.item, s.namespaces.ontology "sitelinks", .blank "anyValue"⟩ ∈
      collect Pattern.labelledTriples (q.body built) :=
    List.mem_flatMap.2 ⟨_, hmem, List.mem_singleton_self _⟩
  rw [collect_body seesBlankNodes_labelledTriples.toSeesThrough fun _ => rfl] at htriple
  obtain ⟨m, hm, htriple⟩ := List.mem_flatMap.1 htriple
  rw [Condition.collect_labelledTriples (i := m.2) rfl (h m hm)] at htriple
  split at htriple
  · have hsubject := congrArg Triple.subject (List.mem_singleton.1 htriple)
    exact Variable.item_ne_statement m.2 (Term.var.inj hsubject)
  · exact absurd htriple List.not_mem_nil

/-- The pattern for any item comes first exactly where all others take solutions away. -/
theorem head_withAnyItem_body (h : q.Builds s built) :
    (withAnyItem s.namespaces (q.body built)).head? = some (anyItem s.namespaces) ↔
      (q.body built).all Pattern.isMinus = true := by
  unfold withAnyItem
  split
  · rename_i hall
    exact ⟨fun _ => hall, fun _ => rfl⟩
  · rename_i hall
    refine ⟨fun hhead => ?_, fun hall' => absurd hall' hall⟩
    exact absurd (mem_nestedIn_of_mem (List.mem_of_head? hhead)) (anyItem_notMem_body h)

/-- **Where the pattern for any item comes first.**  The pattern says that the item has a number of
sitelinks.  In the query for the items it comes first exactly if all conditions are negated and none
of them says "or".  Then all other patterns take solutions away; and where it does not come first,
there is nothing but the patterns of the conditions.  These do not have it anywhere. -/
theorem anyItem_first_iff {answer : SelectQuery} (h : q.compile s = .ok answer) :
    let anyItem : Pattern :=
      .triples [⟨Variable.item, s.namespaces.ontology "sitelinks", .blank "anyValue"⟩]
    ∃ built items, q.Builds s built ∧
      answer = (if q.omitLabels then items else withLabels s items) ∧
      (items.patterns.head? = some anyItem ↔
        ∀ c ∈ q.conditions, c.negate = true ∧ c.connective ≠ some .or) ∧
      (items.patterns.head? = some anyItem →
        items.patterns = anyItem :: q.body built ∧ ∀ p ∈ q.body built, p.isMinus = true) ∧
      (items.patterns.head? ≠ some anyItem → items.patterns = q.body built) ∧
      anyItem ∉ nestedIn (q.body built) := by
  obtain ⟨items, hitems, hanswer⟩ := compile_eq_ok.1 h
  obtain ⟨built, hbuilt, rfl⟩ := compileItems_eq_ok.1 hitems
  have hfirst := head_withAnyItem_body hbuilt
  refine ⟨built, _, hbuilt, hanswer, hfirst.trans ?_, fun hhead => ?_, fun hhead => ?_,
    anyItem_notMem_body hbuilt⟩
  · simp only [all_isMinus_body hbuilt, Condition.isOr_eq_false_iff]
  · have hall := hfirst.1 hhead
    exact ⟨if_pos hall, List.all_eq_true.1 hall⟩
  · exact if_neg fun hall => hhead (hfirst.2 hall)

/-- Two negated conditions take away from any item. -/
theorem anyItem_first_twoTexts :
    ∃ answer, (twoTexts true true).compile {} = .ok answer ∧
      ∃ built items, (twoTexts true true).Builds {} built ∧
        answer = (if (twoTexts true true).omitLabels then items else withLabels {} items) ∧
        items.patterns =
          .triples [⟨Variable.item, .iri ⟨"http://wikiba.se/ontology#sitelinks"⟩,
            .blank "anyValue"⟩] :: (twoTexts true true).body built ∧
        ∀ p ∈ (twoTexts true true).body built, p.isMinus = true := by
  refine ⟨_, rfl, ?_⟩
  obtain ⟨built, items, hbuilt, hanswer, hfirst, hplaced, -, -⟩ :=
    anyItem_first_iff (s := {}) (q := twoTexts true true) rfl
  obtain ⟨hitems, hminus⟩ := hplaced (hfirst.2 (by decide))
  exact ⟨built, items, hbuilt, hanswer, hitems, hminus⟩

end Query

end WikibaseQuery

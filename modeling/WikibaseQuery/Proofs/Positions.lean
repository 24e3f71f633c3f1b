import WikibaseQuery.Proofs.Everywhere
import WikibaseQuery.Proofs.Names

/-!
# Positions in names

The variables of a condition end in the digits of its position, and no other digit stands before
these.  So the position can be read off a variable, and two conditions share no variable but the item
and the reference.

* `Variable.At.unique` — a variable belongs to one position;
* `Condition.variables_at` — the variables of a condition belong to its position, apart from the
  item and the reference.
-/

namespace WikibaseQuery

/-! ## Variables of a position -/

/-- The name is a word and then the position, and the word ends in no digit. -/
def Variable.At (i : Nat) (v : Variable) : Prop :=
  ∃ word : String, v.name = word ++ toString i ∧
    ∀ ch ∈ word.toList.getLast?, ch.isDigit = false

/-- The digits at the end of a text. -/
def finalDigits (text : String) : List Char := text.toList.reverse.takeWhile Char.isDigit

/-- The digits of a position belong to those at the end. -/
theorem finalDigits_append_position (word : String) (i : Nat) :
    finalDigits (word ++ toString i) = (toString i).toList.reverse ++ finalDigits word := by
  have hdigits : ∀ ch ∈ (toString i).toList.reverse, ch.isDigit = true := by
    intro ch hch
    rw [List.mem_reverse, Nat.toString_eq_repr, Nat.toList_repr] at hch
    exact Nat.isDigit_of_mem_toDigits (by decide) (by decide) hch
  rw [finalDigits, String.toList_append, List.reverse_append,
    List.takeWhile_append_of_pos hdigits, finalDigits]

theorem finalDigits_append_position_ne_nil (word : String) (i : Nat) :
    finalDigits (word ++ toString i) ≠ [] := by
  rw [finalDigits_append_position, Nat.toString_eq_repr, Nat.toList_repr]
  simp [Nat.toDigits_ne_nil]

theorem finalDigits_eq_nil {word : String} (h : ∀ ch ∈ word.toList.getLast?, ch.isDigit = false) :
    finalDigits word = [] := by
  rw [← List.head?_reverse] at h
  unfold finalDigits
  cases hreverse : word.toList.reverse with
  | nil => rfl
  | cons ch others =>
    have hch : ch.isDigit = false := h ch (by rw [hreverse]; rfl)
    simp [hch]

namespace Variable

variable {v : Variable} {i j : Nat}

theorem At.finalDigits_eq (h : v.At i) : finalDigits v.name = (toString i).toList.reverse := by
  obtain ⟨word, hname, hword⟩ := h
  rw [hname, finalDigits_append_position, finalDigits_eq_nil hword, List.append_nil]

/-- **A variable belongs to one position.** -/
theorem At.unique (hi : v.At i) (hj : v.At j) : i = j := by
  have hdigits : (toString i).toList.reverse = (toString j).toList.reverse :=
    hi.finalDigits_eq.symm.trans hj.finalDigits_eq
  exact toString_position_inj (String.toList_inj.1 (List.reverse_injective hdigits))

/-- What a position names ends in a digit. -/
theorem At.finalDigits_ne (h : v.At i) : finalDigits v.name ≠ [] := by
  obtain ⟨word, hname, -⟩ := h
  rw [hname]
  exact finalDigits_append_position_ne_nil word i

theorem not_at_item : ¬ item.At i := fun h => h.finalDigits_ne (by decide)

theorem not_at_reference : ¬ reference.At i := fun h => h.finalDigits_ne (by decide)

theorem at_numbered {word : String} (h : IsWord word) : (numbered word i).At i := by
  refine ⟨word, rfl, fun ch hch => ?_⟩
  exact isDigit_eq_false_of_isAlpha (h ch (List.mem_of_getLast? hch))

theorem at_underscored (word : String) : (underscored word i).At i := by
  refine ⟨word ++ "_", rfl, fun ch hch => ?_⟩
  have hunderscore : ch = '_' := by simpa [eq_comm] using hch
  rw [hunderscore]
  decide

end Variable

/-! ## The variables of patterns -/

section

variable {r : Rules} {v : Variable}

theorem Triple.var_of_obeys {t : Triple} (h : t.Obeys r) (hv : .var v ∈ t.terms) : r.var v := by
  rcases List.mem_pair.1 hv with heq | heq
  · exact (heq ▸ h.1 : (Term.var v).Obeys r)
  · exact (heq ▸ h.2.2 : (Term.var v).Obeys r)

mutual

theorem Expression.var_of_obeys : (e : Expression) → e.Obeys r →
    .var v ∈ e.terms ++ e.nested.flatMap Pattern.terms → r.var v
  | .term t, h, hv => by
    have heq : .var v = t := by simpa [Expression.terms] using hv
    exact (heq ▸ h.1 : (Term.var v).Obeys r)
  | .binary operator left right, h, hv => by
    have hcases : .var v ∈ left.terms ++ left.nested.flatMap Pattern.terms ∨
        .var v ∈ right.terms ++ right.nested.flatMap Pattern.terms := by
      simp only [Expression.terms, nested_binary, List.flatMap_append, List.mem_append] at hv ⊢
      tauto
    rcases hcases with hleft | hright
    · exact left.var_of_obeys h.1 hleft
    · exact right.var_of_obeys h.2 hright
  | .existence negated ps, h, hv => by
    rw [Expression.terms, List.nil_append, flatMap_nested_existence] at hv
    exact var_of_obeyIn ps h.2.2 hv

theorem Pattern.var_of_obeys : (p : Pattern) → p.Obeys r →
    .var v ∈ p.nested.flatMap Pattern.terms → r.var v
  | .triples ts, h, hv => by
    have hterms : .var v ∈ ts.flatMap Triple.terms := by
      simpa [Pattern.nested, Pattern.terms] using hv
    obtain ⟨t, ht, hvt⟩ := List.mem_flatMap.1 hterms
    exact Triple.var_of_obeys (h.2 t ht) hvt
  | .bind target value, h, hv => by
    rw [Pattern.nested, List.flatMap_cons, Pattern.terms, List.cons_append] at hv
    rcases List.mem_cons.1 hv with heq | hv
    · cases heq
      exact h.1
    · exact value.var_of_obeys h.2 hv
  | .filter condition, h, hv => by
    rw [Pattern.nested, List.flatMap_cons, Pattern.terms] at hv
    exact condition.var_of_obeys h hv
  | .union arms, h, hv => var_of_obeyIn arms h.2 hv
  | .minus ps, h, hv => var_of_obeyIn ps h.2.2 hv
  | .group ps, h, hv => var_of_obeyIn ps h.2 hv
  | .service _ _ ps, h, hv => var_of_obeyIn ps h.2.2.2 hv
  | .subquery _ projection ps _, h, hv => by
    rw [Pattern.nested, List.flatMap_cons, Pattern.terms] at hv
    rcases List.mem_append.1 hv with hv | hv
    · exact h.2.1 v (by simpa using hv)
    · exact var_of_obeyIn ps h.2.2.2.2 hv

/-- The variables of patterns obey the rule for variables, wherever they stand. -/
theorem var_of_obeyIn : (ps : List Pattern) → ObeyIn r ps →
    .var v ∈ collect Pattern.terms ps → r.var v
  | [], _, hv => absurd hv List.not_mem_nil
  | p :: ps, h, hv => by
    rw [collect, nestedIn, List.flatMap_append] at hv
    rcases List.mem_append.1 hv with hv | hv
    · exact p.var_of_obeys h.1 hv
    · exact var_of_obeyIn ps h.2 hv

end

end

/-! ## Conditions -/

/-- Every variable is that of the item, that of a reference or one of the position. -/
def positionRules (i : Nat) : Rules where
  var v := v = .item ∨ v = .reference ∨ v.At i

theorem positionRules_admits (c : Condition) (suffix : String) (i : Nat) :
    (positionRules i).Admits c suffix i where
  item := .inl rfl
  reference := .inr (.inl rfl)
  numbered _ h := .inr (.inr (Variable.at_numbered h))
  underscored word _ := .inr (.inr (Variable.at_underscored word))
  property _ := .inr (.inr (Variable.at_underscored c.property))
  label _ := trivial
  iri _ := trivial
  operand _ _ := trivial
  path _ _ _ := trivial
  block _ _ := trivial
  body _ _ := trivial
  ungrouped _ _ := trivial

/-- **The variables of a condition** are the item, the reference and those of its position. -/
theorem Condition.variables_at {s : Settings} {c : Condition} {scope : Scope} {i : Nat}
    {ps : List Pattern} {v : Variable} (hi : scope.position = some i)
    (h : c.patterns s scope = .ok ps) (hv : .var v ∈ collect Pattern.terms ps) :
    v = .item ∨ v = .reference ∨ v.At i :=
  var_of_obeyIn ps (Condition.flat_patterns (positionRules_admits c _ i) hi h).1 hv

end WikibaseQuery

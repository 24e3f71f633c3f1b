import Mathlib.Data.List.TakeWhile
import WikibaseQuery.Query.Grouping

/-!
# What grouping makes of a list

`grouping` reads a list from the front and rewrites its last element whenever a member says "or".
This file gives the view of its result that does not mention that rewriting:

* `flatMap_members_grouping` — nothing is lost, doubled or moved;
* `grouping_cons` — the first element takes the first member and the run of "or"s right after it,
  and the rest is grouped as if it stood alone;
* `wellShaped_of_mem` — no element is empty, and those with one member that does not say "or" are
  the single ones;
* `elementStarts_grouping` — elements start at the first member and wherever a member does not say
  "or";
* `grouping_conditions` — all of this for the conditions of a query;
* `numbered` — the elements with the position of every member, where positions run on from one
  element to the next (`flatMap_members_numbered`).
-/

namespace WikibaseQuery

variable {α β : Type}

namespace Element

/-- The element with every member replaced. -/
def map (f : α → β) : Element α → Element β
  | single a => single (f a)
  | group as => group (as.map f)

/-- The element with its members numbered from `i` on. -/
def number (i : Nat) : Element α → Element (α × Nat)
  | single a => single (a, i)
  | group as => group (as.zipIdx i)

@[simp] theorem members_number (i : Nat) (e : Element α) :
    (e.number i).members = e.members.zipIdx i := by
  cases e <;> rfl

@[simp] theorem map_fst_number (i : Nat) (e : Element α) : (e.number i).map Prod.fst = e := by
  cases e with
  | single a => rfl
  | group as => rw [number, map, List.zipIdx_map_fst]

end Element

/-! ## The members in order -/

section

variable (isOr : α → Bool)

/-- One more member comes after those that are there. -/
theorem flatMap_members_addElement (done : List (Element α)) (a : α) :
    (addElement isOr done a).reverse.flatMap Element.members =
      done.reverse.flatMap Element.members ++ [a] := by
  unfold addElement
  split
  · cases done with
    | nil => rfl
    | cons last others => simp
  · simp [Element.members]

theorem flatMap_members_foldl (as : List α) (done : List (Element α)) :
    (as.foldl (addElement isOr) done).reverse.flatMap Element.members =
      done.reverse.flatMap Element.members ++ as := by
  induction as generalizing done with
  | nil => simp
  | cons a as ih =>
    rw [List.foldl_cons, ih, flatMap_members_addElement, List.append_assoc, List.singleton_append]

/-- The members of the elements, one element after the other, are the list itself. -/
theorem flatMap_members_grouping (as : List α) :
    (grouping isOr as).flatMap Element.members = as := by
  rw [grouping, flatMap_members_foldl]
  rfl

/-! ## The elements from the front -/

/-- Elements before the last one stay as they are. -/
theorem foldl_addElement_append (as : List α) (last : Element α) (others : List (Element α)) :
    as.foldl (addElement isOr) (last :: others) =
      as.foldl (addElement isOr) [last] ++ others := by
  induction as generalizing last others with
  | nil => rfl
  | cons a as ih =>
    rw [List.foldl_cons, List.foldl_cons]
    cases h : isOr a with
    | true =>
      simp only [addElement, h, if_true]
      exact ih (last.join a) others
    | false =>
      simp only [addElement, h, Bool.false_eq_true, if_false]
      rw [ih (.single a) (last :: others), ih (.single a) [last], List.append_assoc]
      rfl

/-- A run of "or"s joins the last element, one after the other. -/
theorem foldl_addElement_run (run : List α) (h : ∀ a ∈ run, isOr a = true) (last : Element α) :
    run.foldl (addElement isOr) [last] =
      [if run = [] then last else .group (last.members ++ run)] := by
  induction run generalizing last with
  | nil => rfl
  | cons a run ih =>
    have ha : isOr a = true := h a (List.mem_cons_self ..)
    have hstep : addElement isOr [last] a = [last.join a] := by
      simp only [addElement, ha, if_true]
    rw [List.foldl_cons, hstep, ih (fun b hb => h b (List.mem_cons_of_mem _ hb))]
    cases run with
    | nil => rfl
    | cons b run => simp

/-- The first element: the first member with the "or"s right after it. -/
def firstElement (a : α) (as : List α) : Element α :=
  if isOr a = false ∧ as.takeWhile isOr = [] then .single a else .group (a :: as.takeWhile isOr)

/-- The run is empty exactly if the next member, if there is one, does not say "or". -/
theorem takeWhile_eq_nil {as : List α} :
    as.takeWhile isOr = [] ↔ ∀ a ∈ as.head?, isOr a = false := by
  cases as <;> simp

/-- **Grouping from the front.**  The first element takes the first member and the run of "or"s
right after it; the rest is grouped as if it stood alone. -/
theorem grouping_cons (a : α) (as : List α) :
    grouping isOr (a :: as) = firstElement isOr a as :: grouping isOr (as.dropWhile isOr) := by
  have hrun : (as.takeWhile isOr).foldl (addElement isOr) (addElement isOr [] a) =
      [firstElement isOr a as] := by
    have hfirst : addElement isOr [] a = [if isOr a then .group [a] else .single a] := by
      unfold addElement
      split <;> rfl
    rw [hfirst, foldl_addElement_run isOr _ (fun b hb => List.mem_takeWhile_imp hb), firstElement]
    cases isOr a <;> cases as.takeWhile isOr <;> simp [Element.members]
  have hrest : (as.dropWhile isOr).foldl (addElement isOr) [firstElement isOr a as] =
      (as.dropWhile isOr).foldl (addElement isOr) [] ++ [firstElement isOr a as] := by
    cases h : as.dropWhile isOr with
    | nil => rfl
    | cons b bs =>
      -- what stops the run says no "or", so it starts an element of its own
      have hb : isOr b = false := by
        have := List.head?_dropWhile_not isOr as
        rw [h] at this
        simpa using this
      rw [List.foldl_cons, List.foldl_cons]
      simp only [addElement, hb, Bool.false_eq_true, if_false]
      rw [foldl_addElement_append]
  have hsplit : as.foldl (addElement isOr) (addElement isOr [] a) =
      (as.dropWhile isOr).foldl (addElement isOr) [firstElement isOr a as] := by
    rw [← hrun, ← List.foldl_append, List.takeWhile_append_dropWhile]
  rw [grouping, List.foldl_cons, hsplit, hrest, List.reverse_append]
  rfl

/-! ## The shape of an element -/

/-- An element as grouping makes it: whoever stands alone does not say "or", and a group has several
members unless its only one says "or". -/
def Element.WellShaped : Element α → Prop
  | .single a => isOr a = false
  | .group as => as ≠ [] ∧ ∀ a, as = [a] → isOr a = true

section

variable {isOr}

theorem Element.WellShaped.members_ne_nil {e : Element α} (h : e.WellShaped isOr) :
    e.members ≠ [] := by
  cases e with
  | single a => exact List.cons_ne_nil a []
  | group as => exact h.1

/-- An element is single exactly if it has one member and this does not say "or". -/
theorem Element.WellShaped.single_iff {e : Element α} (h : e.WellShaped isOr) :
    (∃ a, e = .single a) ↔ ∃ a, e.members = [a] ∧ isOr a = false := by
  cases e with
  | single a => exact ⟨fun _ => ⟨a, rfl, h⟩, fun _ => ⟨a, rfl⟩⟩
  | group as =>
    constructor
    · rintro ⟨a, ha⟩
      exact absurd ha (by simp)
    · rintro ⟨a, has, ha⟩
      exact absurd (h.2 a has) (by simp [ha])

/-- One more member of an element that is not empty makes several. -/
theorem Element.wellShaped_join {e : Element α} (h : e.members ≠ []) (a : α) :
    (e.join a).WellShaped isOr := by
  refine ⟨by simp, fun b hb => ?_⟩
  have hlength := congrArg List.length hb
  simp only [List.length_append, List.length_singleton] at hlength
  exact absurd (List.eq_nil_of_length_eq_zero (Nat.succ_injective hlength)) h

end

/-- One more member leaves all elements well shaped. -/
theorem wellShaped_addElement {done : List (Element α)} (h : ∀ e ∈ done, e.WellShaped isOr)
    (a : α) : ∀ e ∈ addElement isOr done a, e.WellShaped isOr := by
  unfold addElement
  split
  · rename_i ha
    cases done with
    | nil =>
      refine List.forall_mem_singleton.2 ⟨List.cons_ne_nil a [], fun b hb => ?_⟩
      rw [← List.head_eq_of_cons_eq hb]
      exact ha
    | cons last others =>
      obtain ⟨hlast, hothers⟩ := List.forall_mem_cons.1 h
      exact List.forall_mem_cons.2 ⟨Element.wellShaped_join hlast.members_ne_nil a, hothers⟩
  · rename_i ha
    have hsingle : (Element.single a).WellShaped isOr := Bool.of_not_eq_true ha
    exact List.forall_mem_cons.2 ⟨hsingle, h⟩

theorem wellShaped_foldl (as : List α) {done : List (Element α)}
    (h : ∀ e ∈ done, e.WellShaped isOr) :
    ∀ e ∈ as.foldl (addElement isOr) done, e.WellShaped isOr := by
  induction as generalizing done with
  | nil => exact h
  | cons a as ih => exact ih (wellShaped_addElement isOr h a)

/-- Every element of a grouping is well shaped. -/
theorem wellShaped_of_mem {as : List α} {e : Element α} (h : e ∈ grouping isOr as) :
    e.WellShaped isOr :=
  wellShaped_foldl isOr as (List.forall_mem_nil _) e (List.mem_reverse.1 h)

/-- No element of a grouping is empty. -/
theorem members_ne_nil_of_mem {as : List α} {e : Element α} (h : e ∈ grouping isOr as) :
    e.members ≠ [] :=
  (wellShaped_of_mem isOr h).members_ne_nil

/-- Whoever stands alone does not say "or". -/
theorem isOr_of_single_mem {as : List α} {a : α} (h : .single a ∈ grouping isOr as) :
    isOr a = false :=
  wellShaped_of_mem isOr h

/-- Where nobody says "or", everybody stands alone. -/
theorem grouping_eq_map_single {as : List α} (h : ∀ a ∈ as, isOr a = false) :
    grouping isOr as = as.map .single := by
  induction as with
  | nil => rfl
  | cons a as ih =>
    have htail : ∀ b ∈ as, isOr b = false := fun b hb => h b (List.mem_cons_of_mem _ hb)
    have hrun : as.takeWhile isOr = [] ∧ as.dropWhile isOr = as := by
      cases as with
      | nil => exact ⟨rfl, rfl⟩
      | cons b bs => simp [htail b (List.mem_cons_self ..)]
    rw [grouping_cons, firstElement, hrun.1, hrun.2, ih htail,
      if_pos ⟨h a (List.mem_cons_self ..), rfl⟩, List.map_cons]

/-! ## Where elements start -/

/-- The positions where the elements start, counted from `i` on through all their members. -/
def elementStarts : Nat → List (Element α) → List Nat
  | _, [] => []
  | i, e :: es => i :: elementStarts (i + e.members.length) es

@[simp] theorem length_elementStarts (i : Nat) (es : List (Element α)) :
    (elementStarts i es).length = es.length := by
  induction es generalizing i with
  | nil => rfl
  | cons e es ih => rw [elementStarts, List.length_cons, ih, List.length_cons]

theorem elementStarts_append (i : Nat) (es fs : List (Element α)) :
    elementStarts i (es ++ fs) =
      elementStarts i es ++ elementStarts (i + (es.flatMap Element.members).length) fs := by
  induction es generalizing i with
  | nil => rfl
  | cons e es ih =>
    rw [List.cons_append, elementStarts, elementStarts, ih, List.cons_append, List.flatMap_cons,
      List.length_append, Nat.add_assoc]

/-- One more member starts an element if there is none before it, or if it does not say "or". -/
theorem elementStarts_addElement {done : List (Element α)} (h : ∀ e ∈ done, e.members ≠ [])
    (a : α) {n : Nat} (hn : (done.reverse.flatMap Element.members).length = n) :
    elementStarts 0 (addElement isOr done a).reverse =
      elementStarts 0 done.reverse ++ if n = 0 ∨ isOr a = false then [n] else [] := by
  unfold addElement
  split
  · rename_i ha
    cases done with
    | nil =>
      obtain rfl : 0 = n := hn
      rfl
    | cons last others =>
      -- the last element has a member already, and the new one joins it
      have hpos : n ≠ 0 := by
        have hlast : last.members.length ≠ 0 :=
          fun hzero => h last (List.mem_cons_self ..) (List.eq_nil_of_length_eq_zero hzero)
        simp only [List.reverse_cons, List.flatMap_append, List.flatMap_singleton,
          List.length_append] at hn
        omega
      have hnew : ¬ (n = 0 ∨ isOr a = false) := by simp [hpos, ha]
      simp only [List.reverse_cons, elementStarts_append, elementStarts, if_neg hnew,
        List.append_nil]
  · rename_i ha
    have hnew : n = 0 ∨ isOr a = false := .inr (Bool.of_not_eq_true ha)
    rw [List.reverse_cons, elementStarts_append, hn, Nat.zero_add, if_pos hnew]
    rfl

theorem elementStarts_foldl (as : List α) {done : List (Element α)}
    (h : ∀ e ∈ done, e.WellShaped isOr) {n : Nat}
    (hn : (done.reverse.flatMap Element.members).length = n) :
    elementStarts 0 (as.foldl (addElement isOr) done).reverse =
      elementStarts 0 done.reverse ++
        ((as.zipIdx n).filter fun m => m.2 = 0 ∨ isOr m.1 = false).map Prod.snd := by
  induction as generalizing done n with
  | nil => simp
  | cons a as ih =>
    have hnext : ((addElement isOr done a).reverse.flatMap Element.members).length = n + 1 := by
      rw [flatMap_members_addElement, List.length_append, hn, List.length_singleton]
    have hne : ∀ e ∈ done, e.members ≠ [] := fun e he => (h e he).members_ne_nil
    rw [List.foldl_cons, ih (wellShaped_addElement isOr h a) hnext,
      elementStarts_addElement isOr hne a hn, List.append_assoc, List.zipIdx_cons]
    congr 1
    by_cases hnew : n = 0 ∨ isOr a = false <;> simp [hnew]

/-- **Where elements start.**  They start at the first member and at every other one that does not
say "or". -/
theorem elementStarts_grouping (as : List α) :
    elementStarts 0 (grouping isOr as) =
      (as.zipIdx.filter fun m => m.2 = 0 ∨ isOr m.1 = false).map Prod.snd := by
  rw [grouping, elementStarts_foldl isOr as (List.forall_mem_nil _) rfl]
  rfl

end

/-! ## The conditions of a query -/

theorem Condition.isOr_eq_false_iff {c : Condition} :
    c.isOr = false ↔ c.connective ≠ some .or := by
  simp [Condition.isOr]

/-- **What grouping makes of conditions.**  The elements are not empty, and their members one after
another are the conditions.  A new element starts exactly before the conditions, other than the
first, that do not say "or"; and an element is single exactly if it has one member that does not say
"or".  So there are as many elements as conditions that come first or do not say "or". -/
theorem grouping_conditions (cs : List Condition) :
    (∀ e ∈ grouping Condition.isOr cs, e.members ≠ []) ∧
    (grouping Condition.isOr cs).flatMap Element.members = cs ∧
    (∀ k c, 0 < k → cs[k]? = some c →
      (k ∈ elementStarts 0 (grouping Condition.isOr cs) ↔ c.connective ≠ some .or)) ∧
    (∀ e ∈ grouping Condition.isOr cs,
      (∃ c, e = .single c) ↔ ∃ c, e.members = [c] ∧ c.connective ≠ some .or) ∧
    (grouping Condition.isOr cs).length =
      cs.zipIdx.countP fun m => m.2 = 0 ∨ m.1.connective ≠ some .or := by
  have hstarts := elementStarts_grouping Condition.isOr cs
  simp only [Condition.isOr_eq_false_iff] at hstarts
  refine ⟨fun e he => members_ne_nil_of_mem _ he, flatMap_members_grouping _ cs, ?_, ?_, ?_⟩
  · intro k c hk hc
    have hpositive : k ≠ 0 := Nat.ne_of_gt hk
    rw [hstarts]
    simp [List.mem_zipIdx_iff_getElem?, hpositive, hc]
  · intro e he
    simp only [(wellShaped_of_mem _ he).single_iff, Condition.isOr_eq_false_iff]
  · rw [← length_elementStarts 0, hstarts, List.length_map, ← List.countP_eq_length_filter]

/-- Conditions on any value of `P1`, `P2` and so on, joined as given. -/
def joinedBy (connectives : List (Option Connective)) : List Condition :=
  connectives.zipIdx.map fun (connective, i) =>
    ⟨"P" ++ toString (i + 1), .string, .text "", .regardless, .regardless, false, false, connective⟩

/-- An "or" in front starts a group of its own, and so does the first condition after it that says
nothing. -/
theorem grouping_conditions_leadingOr :
    let cs := joinedBy [some .or, some .or, none, some .and, some .or]
    (∃ c, 0 < 2 ∧ cs[2]? = some c ∧
      (2 ∈ elementStarts 0 (grouping Condition.isOr cs) ↔ c.connective ≠ some .or)) ∧
    (∃ e ∈ grouping Condition.isOr cs, e.members ≠ [] ∧
      ((∃ c, e = .single c) ↔ ∃ c, e.members = [c] ∧ c.connective ≠ some .or)) ∧
    elementStarts 0 (grouping Condition.isOr cs) = [0, 2, 3] := by
  intro cs
  obtain ⟨hne, -, hstarts, hsingle, -⟩ := grouping_conditions cs
  have hmem : .single ⟨"P3", .string, .text "", .regardless, .regardless, false, false, none⟩ ∈
      grouping Condition.isOr cs := List.mem_cons_of_mem _ (List.mem_cons_self ..)
  exact ⟨⟨_, by decide, rfl, hstarts 2 _ (by decide) rfl⟩, ⟨_, hmem, hne _ hmem, hsingle _ hmem⟩,
    rfl⟩

/-! ## Positions -/

/-- The elements with the position of every member, counted from `i` on through all of them. -/
def numbered : Nat → List (Element α) → List (Element (α × Nat))
  | _, [] => []
  | i, e :: es => e.number i :: numbered (i + e.members.length) es

/-- The positions are the only thing that is added. -/
theorem map_fst_numbered (i : Nat) (es : List (Element α)) :
    (numbered i es).map (Element.map Prod.fst) = es := by
  induction es generalizing i with
  | nil => rfl
  | cons e es ih => rw [numbered, List.map_cons, Element.map_fst_number, ih]

/-- The positions run on from one element to the next. -/
theorem flatMap_members_numbered (i : Nat) (es : List (Element α)) :
    (numbered i es).flatMap Element.members = (es.flatMap Element.members).zipIdx i := by
  induction es generalizing i with
  | nil => rfl
  | cons e es ih =>
    rw [numbered, List.flatMap_cons, List.flatMap_cons, ih, List.zipIdx_append,
      Element.members_number]

example : numbered 0 (grouping id [false, true, false, false, true]) =
    [.group [(false, 0), (true, 1)], .single (false, 2), .group [(false, 3), (true, 4)]] := by
  rfl

end WikibaseQuery

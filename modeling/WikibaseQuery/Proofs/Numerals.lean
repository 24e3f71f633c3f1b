import WikibaseQuery.Json.Printer
import WikibaseQuery.Proofs.Scaling

/-!
# Numbers in JSON text

A number is printed by spelling a numeral.  Which numeral that is, is said beside the printer, so
that two things are told apart: that the spelling is read as the numeral, whatever follows it that
cannot go on a number, and that the numeral has the value of the number.  The first always holds.
The second holds of integers, and of other numbers where the numeral is short; it may fail where it
is not, since a long numeral is rounded more than once.

* `Numeral.read_text` — a well-spelled numeral is read back;
* `Number.read_numberText` — the text of a number is read as its numeral;
* `Binary64.ofDecimal?_numeral` — a number is the nearest one to what its numeral spells;
* `Number.readsBack_integer`, `Number.readsBack_of_short` — where that numeral has the value of the
  number.
-/

namespace WikibaseQuery

/-! ## What follows a numeral -/

/-- What follows cannot go on a numeral. -/
def EndsNumeral (rest : List Char) : Prop :=
  ∀ c ∈ rest.head?, c.isDigit = false ∧ c ≠ '.' ∧ c ≠ 'e' ∧ c ≠ 'E'

theorem endsNumeral_nil : EndsNumeral [] := fun _ h => nomatch h

/-! ## Digits -/

section

variable {digits rest : List Char}

/-- A number other than zero does not start with a zero. -/
theorem head?_toDigits {n : Nat} (h : (Nat.toDigits 10 n).head? = some '0') : n = 0 := by
  induction n using Nat.strong_induction_on with
  | _ n ih =>
    by_cases hn : n < 10
    · rw [Nat.toDigits_of_lt_base hn, List.head?_cons, Option.some.injEq] at h
      exact Nat.digitChar_eq_zero.mp h
    · have hten : 10 ≤ n := by omega
      obtain ⟨c, cs, hcs⟩ := List.exists_cons_of_ne_nil (@Nat.toDigits_ne_nil (n / 10) 10)
      rw [Nat.toDigits_of_base_le (by decide) hten, hcs] at h
      have := ih (n / 10) (by omega) (by rw [hcs]; exact h)
      omega

theorem isDigit_toDigits (n : Nat) : ∀ c ∈ Nat.toDigits 10 n, c.isDigit = true :=
  fun _ h => Nat.isDigit_of_mem_toDigits (by decide) (by decide) h

namespace Numeral

/-- Digits are read up to the first character that is none. -/
theorem readDigits_append (hdigits : ∀ c ∈ digits, c.isDigit = true) (hne : digits ≠ [])
    (hrest : ∀ c ∈ rest.head?, c.isDigit = false) :
    readDigits (digits ++ rest) = .ok (digits, rest) := by
  have hstop : rest.takeWhile Char.isDigit = [] ∧ rest.dropWhile Char.isDigit = rest := by
    cases rest with
    | nil => exact ⟨rfl, rfl⟩
    | cons c rest =>
      have hc : c.isDigit = false := hrest c rfl
      simp [hc]
  simp only [readDigits, List.takeWhile_append_of_pos hdigits, List.dropWhile_append_of_pos hdigits,
    hstop, List.append_nil, hne, if_false]

end Numeral

end

/-! ## Spelling -/

namespace Numeral

/-- The digits after the point, with the point if there are any. -/
def fractionText (fraction : List Char) : List Char :=
  if fraction = [] then [] else '.' :: fraction

/-- The power of ten with its mark and its sign, if there is one. -/
def powerText : Option Int → List Char
  | none => []
  | some power => 'e' :: (if power < 0 then '-' else '+') :: Nat.toDigits 10 power.natAbs

/-- The numeral as it is spelled. -/
def text (n : Numeral) : List Char :=
  (if n.negative then ['-'] else []) ++
    (n.whole ++ (fractionText n.fraction ++ powerText n.exponent))

/-- The numeral consists of digits in their places, without a zero before other digits. -/
structure WellSpelled (n : Numeral) : Prop where
  whole_digits : ∀ c ∈ n.whole, c.isDigit = true
  whole_ne_nil : n.whole ≠ []
  whole_head : n.whole.head? = some '0' → n.whole.length = 1
  fraction_digits : ∀ c ∈ n.fraction, c.isDigit = true

variable {n : Numeral} {fraction rest : List Char}

/-- After the whole part no digit follows. -/
theorem head?_fractionText (hrest : EndsNumeral rest) (fraction : List Char) (power : Option Int) :
    ∀ c ∈ (fractionText fraction ++ (powerText power ++ rest)).head?, c.isDigit = false := by
  intro c hc
  cases fraction with
  | cons d fraction =>
    obtain rfl : '.' = c := by simpa [fractionText] using hc
    decide
  | nil =>
    cases power with
    | some power =>
      obtain rfl : 'e' = c := by simpa [fractionText, powerText] using hc
      decide
    | none => exact (hrest c hc).1

/-- After the fraction neither a digit nor a point follows. -/
theorem head?_powerText (hrest : EndsNumeral rest) (power : Option Int) :
    ∀ c ∈ (powerText power ++ rest).head?, c.isDigit = false ∧ c ≠ '.' := by
  intro c hc
  cases power with
  | some power =>
    obtain rfl : 'e' = c := by simpa [powerText] using hc
    decide
  | none => exact ⟨(hrest c hc).1, (hrest c hc).2.1⟩

theorem readWhole_append (h : n.WellSpelled) (hrest : ∀ c ∈ rest.head?, c.isDigit = false) :
    readWhole (n.whole ++ rest) = .ok (n.whole, rest) := by
  have hzero : ¬ (n.whole.head? = some '0' ∧ n.whole.length ≠ 1) := fun ⟨h0, h1⟩ =>
    h1 (h.whole_head h0)
  rw [readWhole, readDigits_append h.whole_digits h.whole_ne_nil hrest]
  exact if_neg hzero

theorem readFraction_append (hdigits : ∀ c ∈ fraction, c.isDigit = true)
    (hrest : ∀ c ∈ rest.head?, c.isDigit = false ∧ c ≠ '.') :
    readFraction (fractionText fraction ++ rest) = .ok (fraction, rest) := by
  by_cases hnil : fraction = []
  · rw [fractionText, if_pos hnil, hnil, List.nil_append]
    cases rest with
    | nil => rfl
    | cons c rest =>
      have hc : c ≠ '.' := (hrest c rfl).2
      rw [readFraction]
      rintro _ ⟨⟩
      exact hc rfl
  · rw [fractionText, if_neg hnil]
    exact readDigits_append hdigits hnil fun c hc => (hrest c hc).1

theorem readExponent_append (hrest : EndsNumeral rest) (power : Option Int) :
    readExponent (powerText power ++ rest) = .ok (power, rest) := by
  cases power with
  | none =>
    cases rest with
    | nil => rfl
    | cons c rest =>
      have hc := (hrest c rfl).2.2
      exact if_neg (by simp [hc])
  | some power =>
    have hread := readDigits_append (isDigit_toDigits power.natAbs) Nat.toDigits_ne_nil
      fun c hc => (hrest c hc).1
    have hvalue := @Nat.ofDigitChars_ten_toDigits power.natAbs
    by_cases hsign : power < 0
    · have hpower : -(power.natAbs : Int) = power := by omega
      simp only [powerText, if_pos hsign, List.cons_append, readExponent, true_or, if_true, hread,
        bind, Except.bind, hvalue, hpower]
      rfl
    · have hpower : (power.natAbs : Int) = power := by omega
      simp only [powerText, if_neg hsign, List.cons_append, readExponent, true_or, if_true, hread,
        bind, Except.bind, hvalue, hpower]
      rfl

/-- **A well-spelled numeral is read back**, whatever follows that cannot go on it. -/
theorem read_text (h : n.WellSpelled) (hrest : EndsNumeral rest) :
    read (n.text ++ rest) = .ok (n, rest) := by
  have hwhole := readWhole_append h (head?_fractionText hrest n.fraction n.exponent)
  have hfraction := readFraction_append h.fraction_digits (head?_powerText hrest n.exponent)
  have hpower := readExponent_append hrest n.exponent
  -- a digit is no sign
  obtain ⟨c, cs, hcs⟩ := List.exists_cons_of_ne_nil h.whole_ne_nil
  have hsign : c ≠ '-' := by
    rintro rfl
    exact absurd (h.whole_digits '-' (by rw [hcs]; exact List.mem_cons_self)) (by decide)
  obtain ⟨negative, whole, fraction, exponent⟩ := n
  dsimp only at hwhole hfraction hpower hcs
  cases negative with
  | true =>
    simp only [text, if_true, List.cons_append, List.nil_append, List.append_assoc, read, bind,
      Except.bind, hwhole, hfraction, hpower]
    rfl
  | false =>
    subst hcs
    simp only [text, Bool.false_eq_true, if_false, List.nil_append, List.append_assoc, read,
      List.cons_append]
    split
    · rename_i hcons
      exact absurd (List.cons.inj hcons).1 hsign
    · simp only [← List.cons_append, bind, Except.bind, hwhole, hfraction, hpower]
      rfl

end Numeral

/-! ## Numbers -/

/-- A numeral with a fraction or an exponent is never an integer. -/
theorem Numeral.number?_float {n : Numeral} (h : n.fraction ≠ [] ∨ n.exponent ≠ none) :
    n.number? = n.float?.map Number.float :=
  if_neg (not_and_or.mpr h)

/-! ### The numeral of a layout -/

namespace Layout

/-- The numeral that a layout spells with some digits, the point standing after the first `point`
of them.  Whole numbers keep their point. -/
def numeral (layout : Layout) (negative : Bool) (digits : List Char) (point : Int) : Numeral :=
  if layout.positional (point - 1) then
    if point ≤ 0 then ⟨negative, ['0'], List.replicate (-point).toNat '0' ++ digits, none⟩
    else if digits.length ≤ point.toNat then
      ⟨negative, digits ++ List.replicate (point.toNat - digits.length) '0', ['0'], none⟩
    else ⟨negative, digits.take point.toNat, digits.drop point.toNat, none⟩
  else ⟨negative, digits.take 1, digits.drop 1, some (point - 1)⟩

variable {layout : Layout} {negative : Bool} {digits : List Char} {point : Int}

theorem text_numeral (h : layout.pointOnWhole = true) (hne : digits ≠ []) :
    (layout.numeral negative digits point).text =
      (if negative then ['-'] else []) ++
        (if layout.positional (point - 1) then positionalText layout.pointOnWhole digits point
         else exponentText digits (point - 1)) := by
  rw [numeral, h]
  split_ifs with hpositional hlow hwhole
  all_goals
    simp [Numeral.text, Numeral.fractionText, Numeral.powerText, positionalText, exponentText, *]

theorem wellSpelled_numeral (hdigits : ∀ c ∈ digits, c.isDigit = true) (hne : digits ≠ [])
    (hhead : digits.head? = some '0' → digits.length = 1 ∧ point ≤ 1) :
    (layout.numeral negative digits point).WellSpelled := by
  have hzeros (k : Nat) : ∀ c ∈ List.replicate k '0', c.isDigit = true := fun c hc => by
    rw [List.eq_of_mem_replicate hc]
    rfl
  have hpos : 0 < digits.length := List.length_pos_iff.mpr hne
  rw [numeral]
  split_ifs with hpositional hlow hwhole
  · exact {
      whole_digits := by simp
      whole_ne_nil := by simp
      whole_head := by simp
      fraction_digits := List.forall_mem_append.mpr ⟨hzeros _, hdigits⟩ }
  · exact {
      whole_digits := List.forall_mem_append.mpr ⟨hdigits, hzeros _⟩
      whole_ne_nil := by simp [hne]
      whole_head := fun h => by
        obtain ⟨c, cs, rfl⟩ := List.exists_cons_of_ne_nil hne
        have := hhead h
        simp only [List.length_append, List.length_replicate]
        omega
      fraction_digits := by simp }
  · exact {
      whole_digits := fun c hc => hdigits c (List.mem_of_mem_take hc)
      whole_ne_nil := by simp [hne]; omega
      whole_head := fun h => by
        rw [List.head?_take, if_neg (by omega)] at h
        have := hhead h
        simp only [List.length_take]
        omega
      fraction_digits := fun c hc => hdigits c (List.mem_of_mem_drop hc) }
  · exact {
      whole_digits := fun c hc => hdigits c (List.mem_of_mem_take hc)
      whole_ne_nil := by simp [hne]
      whole_head := fun _ => by
        simp only [List.length_take]
        omega
      fraction_digits := fun c hc => hdigits c (List.mem_of_mem_drop hc) }

theorem negative_numeral : (layout.numeral negative digits point).negative = negative := by
  rw [numeral]
  split_ifs <;> rfl

/-- A layout spells no integer. -/
theorem fraction_or_exponent_numeral (hne : digits ≠ []) :
    (layout.numeral negative digits point).fraction ≠ [] ∨
      (layout.numeral negative digits point).exponent ≠ none := by
  rw [numeral]
  split_ifs with hpositional hlow hwhole
  · exact .inl (by simp [hne])
  · exact .inl (by simp)
  · exact .inl (by simp; omega)
  · exact .inr (by simp)

/-- The numeral stands for what its digits stand for. -/
theorem ofDecimal?_numeral (hne : digits ≠ []) :
    Binary64.ofDecimal? negative (layout.numeral negative digits point).decimal =
      Binary64.ofDecimal? negative ⟨Nat.ofDigitChars 10 digits 0, point - digits.length⟩ := by
  have hpos : 0 < digits.length := List.length_pos_iff.mpr hne
  rw [numeral]
  split_ifs with hpositional hlow hwhole
  · -- zeros in front of the digits
    have hvalue : Nat.ofDigitChars 10 (['0'] ++ (List.replicate (-point).toNat '0' ++ digits)) 0 =
        Nat.ofDigitChars 10 digits 0 := by
      simp [Nat.ofDigitChars_append, Nat.ofDigitChars_cons, Nat.ofDigitChars_replicate_zero]
    have hpower : 0 - ((List.replicate (-point).toNat '0' ++ digits).length : Int) =
        point - digits.length := by
      simp only [List.length_append, List.length_replicate]
      omega
    simp only [Numeral.decimal, hvalue, Option.getD_none, hpower]
  · -- zeros after the digits
    have hvalue : Nat.ofDigitChars 10
        (digits ++ List.replicate (point.toNat - digits.length) '0' ++ ['0']) 0 =
        Nat.ofDigitChars 10 digits 0 * 10 ^ (point.toNat - digits.length + 1) := by
      rw [List.append_assoc, ← List.replicate_succ', Nat.ofDigitChars_append,
        Nat.ofDigitChars_replicate_zero, Nat.mul_comm]
    have hpower : (0 : Int) - (['0'].length : Int) =
        point - digits.length - (point.toNat - digits.length + 1 : Nat) := by
      simp only [List.length_singleton]
      omega
    simp only [Numeral.decimal, hvalue, Option.getD_none, hpower, Binary64.ofDecimal?_shift]
  · have hpower : (0 : Int) - ((digits.drop point.toNat).length : Int) = point - digits.length := by
      simp only [List.length_drop]
      omega
    simp only [Numeral.decimal, List.take_append_drop, Option.getD_none, hpower]
  · have hpower : point - 1 - ((digits.drop 1).length : Int) = point - digits.length := by
      simp only [List.length_drop]
      omega
    simp only [Numeral.decimal, List.take_append_drop, Option.getD_some, hpower]

end Layout

namespace Binary64

/-- The numeral that a layout spells for a number. -/
def numeral (layout : Layout) (x : Binary64) : Numeral :=
  let d := x.shortest layout.tie
  let digits := Nat.toDigits 10 d.digits
  layout.numeral x.negative digits (digits.length + d.exponent)

variable {layout : Layout}

/-- The text of a number spells its numeral. -/
theorem text_numeral (h : layout.pointOnWhole = true) (x : Binary64) :
    (x.numeral layout).text = x.text layout :=
  Layout.text_numeral h Nat.toDigits_ne_nil

/-- Only zero has no digits but zeros, and it is written as a lone digit. -/
theorem exponent_shortest {tie : Tie} {x : Binary64} (h : (x.shortest tie).digits = 0) :
    (x.shortest tie).exponent = 0 := by
  have hread := ofDecimal?_shortest tie x
  rw [ofDecimal?, if_pos h, Option.some.injEq] at hread
  have hunits : x.units = 0 := by
    rw [← hread]
    rfl
  rw [shortest, if_pos hunits]

theorem wellSpelled_numeral (layout : Layout) (x : Binary64) : (x.numeral layout).WellSpelled := by
  refine Layout.wellSpelled_numeral (isDigit_toDigits _) Nat.toDigits_ne_nil fun hhead => ?_
  have hzero := head?_toDigits hhead
  rw [exponent_shortest hzero, hzero]
  decide

/-- **A number is the nearest one to what its numeral spells.** -/
theorem ofDecimal?_numeral (layout : Layout) (x : Binary64) :
    ofDecimal? x.negative (x.numeral layout).decimal = some x := by
  rw [numeral, Layout.ofDecimal?_numeral Nat.toDigits_ne_nil, Nat.ofDigitChars_ten_toDigits,
    add_sub_cancel_left]
  exact ofDecimal?_shortest layout.tie x

end Binary64

/-! ### Numbers as they are printed -/

namespace Number

/-- The numeral that is printed for a number. -/
def numeral : Number → Numeral
  | .integer n => ⟨n < 0, Nat.toDigits 10 n.natAbs, [], none⟩
  | .float x => x.numeral Json.floatLayout

theorem text_numeral (n : Number) : n.numeral.text = Json.numberText n := by
  cases n with
  | integer n => simp [numeral, Numeral.text, Numeral.fractionText, Numeral.powerText,
      Json.numberText, Json.integerText]
  | float x => exact x.text_numeral rfl

theorem wellSpelled_numeral (n : Number) : n.numeral.WellSpelled := by
  cases n with
  | float x => exact x.wellSpelled_numeral Json.floatLayout
  | integer n => exact {
      whole_digits := isDigit_toDigits _
      whole_ne_nil := Nat.toDigits_ne_nil
      whole_head := fun hhead => by
        rw [numeral, head?_toDigits hhead]
        rfl
      fraction_digits := by simp [numeral] }

/-- **The text of a number is read as its numeral**, whatever follows that cannot go on it. -/
theorem read_numberText {rest : List Char} (hrest : EndsNumeral rest) (n : Number) :
    Numeral.read (Json.numberText n ++ rest) = .ok (n.numeral, rest) := by
  rw [← text_numeral]
  exact Numeral.read_text n.wellSpelled_numeral hrest

/-! ### Numbers that read back -/

/-- The numeral that is printed for the number has its value. -/
def ReadsBack (n : Number) : Prop := n.numeral.number? = some n

/-- An integer reads back if it fits 64 bits. -/
theorem readsBack_integer {n : Int} (hlow : -((UInt64.size / 2 : Nat) : Int) ≤ n)
    (hhigh : n < UInt64.size) : (Number.integer n).ReadsBack := by
  simp only [UInt64.size] at hlow hhigh
  by_cases hsign : n < 0
  · have : n.natAbs ≠ 0 ∧ n.natAbs ≤ UInt64.size / 2 := by
      simp only [UInt64.size]
      omega
    have hn : -(n.natAbs : Int) = n := by omega
    simp only [ReadsBack, numeral, Numeral.number?, hsign, decide_true,
      Nat.ofDigitChars_ten_toDigits, and_self, if_true, ne_eq, this, not_false_eq_true, hn]
  · have : n.natAbs < UInt64.size := by
      simp only [UInt64.size]
      omega
    have hn : (n.natAbs : Int) = n := by omega
    simp [ReadsBack, numeral, Numeral.number?, hsign, this, hn, Nat.ofDigitChars_ten_toDigits]

theorem readsBack_natCast {n : Nat} (h : n < UInt64.size) : (Number.integer n).ReadsBack := by
  simp only [UInt64.size] at h
  refine readsBack_integer ?_ ?_
  · simp only [UInt64.size]
    omega
  · simp only [UInt64.size]
    omega

/-- What a number that is no integer is read back as. -/
theorem number?_float_numeral (x : Binary64) :
    (Number.float x).numeral.number? = (Number.float x).numeral.float?.map Number.float :=
  Numeral.number?_float (Layout.fraction_or_exponent_numeral Nat.toDigits_ne_nil)

/-- **A number reads back if it is printed by a short numeral.** -/
theorem readsBack_of_short {x : Binary64} (h : (Number.float x).numeral.Short) :
    (Number.float x).ReadsBack := by
  have hsign : (Number.float x).numeral.negative = x.negative := Layout.negative_numeral
  have hvalue := Numeral.float?_of_short h
  rw [hsign] at hvalue
  rw [ReadsBack, number?_float_numeral, hvalue, numeral, x.ofDecimal?_numeral, Option.map_some]

end Number

end WikibaseQuery

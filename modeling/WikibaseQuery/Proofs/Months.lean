import Mathlib.Data.List.Basic
import Mathlib.Data.List.TakeWhile
import WikibaseQuery.Calendar

/-!
# The month after a month

A month is told by a sign, a year and a number from 0, for no month in particular, to 12.  Counted
through all years it is one number, `monthCount`, and the month that follows is the next number.

* `splitMonth_eq_some` — which texts start with a month, in digits of any script;
* `shiftYear?_eq_some` — the shifted year is the one whose signed value is greater by one;
* `followingMonth?_eq_some` — the two ways in which a following month comes about;
* `followingMonth_isNextMonth_iff` — the following month is the next one exactly if the year is
  written in ASCII digits and the month is at most 12.
-/

namespace WikibaseQuery

/-! ## Digits -/

/-- The digits of ASCII are decimal digits. -/
theorem isDecimalDigit_of_isDigit {c : Char} (h : c.isDigit = true) : isDecimalDigit c = true := by
  have hrange : 0x30 ≤ c.toNat ∧ c.toNat ≤ 0x39 := Char.isDigit_iff_toNat.1 h
  refine List.any_eq_true.2 ⟨(0x30, 0x39), List.mem_cons_self .., ?_⟩
  simpa using hrange

theorem asciiValue?_eq_some {digits : List Char} {n : Nat} :
    asciiValue? digits = some n ↔
      (∀ c ∈ digits, c.isDigit = true) ∧ Nat.ofDigitChars 10 digits 0 = n := by
  rw [← List.all_eq_true, asciiValue?]
  by_cases h : digits.all Char.isDigit = true <;> simp only [h] <;> simp

/-- Digits with a value are decimal digits. -/
theorem isDecimalDigit_of_asciiValue? {digits : List Char} {n : Nat}
    (h : asciiValue? digits = some n) : ∀ c ∈ digits, isDecimalDigit c = true :=
  fun c hc => isDecimalDigit_of_isDigit ((asciiValue?_eq_some.1 h).1 c hc)

/-- The value of two digits. -/
theorem asciiValue?_pair {tens ones : Char} {n : Nat} :
    asciiValue? [tens, ones] = some n ↔
      (tens.isDigit = true ∧ ones.isDigit = true) ∧
        10 * (tens.toNat - 48) + (ones.toNat - 48) = n := by
  rw [asciiValue?_eq_some, List.forall_mem_cons, List.forall_mem_singleton]
  simp [Nat.ofDigitChars]

theorem asciiValue?_pair_lt {tens ones : Char} {n : Nat} (h : asciiValue? [tens, ones] = some n) :
    n < 100 := by
  obtain ⟨⟨htens, hones⟩, rfl⟩ := asciiValue?_pair.1 h
  have htens : tens.toNat ≤ 57 := (Char.isDigit_iff_toNat.1 htens).2
  have hones : ones.toNat ≤ 57 := (Char.isDigit_iff_toNat.1 hones).2
  omega

/-- Only "12" has the value 12. -/
theorem asciiValue?_pair_twelve {tens ones : Char} :
    asciiValue? [tens, ones] = some 12 ↔ tens = '1' ∧ ones = '2' := by
  constructor
  · intro h
    obtain ⟨⟨htens, hones⟩, hvalue⟩ := asciiValue?_pair.1 h
    have htens : 48 ≤ tens.toNat ∧ tens.toNat ≤ 57 := Char.isDigit_iff_toNat.1 htens
    have hones : 48 ≤ ones.toNat ∧ ones.toNat ≤ 57 := Char.isDigit_iff_toNat.1 hones
    have htwelve : tens.toNat = '1'.toNat ∧ ones.toNat = '2'.toNat := by
      simp
      omega
    exact ⟨Char.toNat_inj.1 htwelve.1, Char.toNat_inj.1 htwelve.2⟩
  · rintro ⟨rfl, rfl⟩
    rfl

/-! ### Padding -/

theorem length_padded (width n : Nat) :
    (padded width n).length = max width (Nat.toDigits 10 n).length := by
  rw [padded, List.length_append, List.length_replicate]
  omega

theorem padded_ne_nil (width n : Nat) : padded width n ≠ [] :=
  List.append_ne_nil_of_right_ne_nil _ Nat.toDigits_ne_nil

/-- Zeros in front do not change the value. -/
theorem asciiValue?_padded (width n : Nat) : asciiValue? (padded width n) = some n := by
  refine asciiValue?_eq_some.2 ⟨?_, ?_⟩
  · intro c hc
    rcases List.mem_append.1 hc with hzero | hdigit
    · rw [List.eq_of_mem_replicate hzero]
      rfl
    · exact Nat.isDigit_of_mem_toDigits (by decide) (by decide) hdigit
  · rw [padded, Nat.ofDigitChars_append, Nat.ofDigitChars_replicate_zero, Nat.mul_zero,
      Nat.ofDigitChars_ten_toDigits]

/-- Numbers below a hundred have two digits. -/
theorem padded_two {n : Nat} (h : n < 100) : ∃ tens ones, padded 2 n = [tens, ones] := by
  have hdigits : (Nat.toDigits 10 n).length ≤ 2 :=
    (Nat.length_toDigits_le_iff (by decide) (by decide)).2 h
  have hlength : (padded 2 n).length = 2 := by
    rw [length_padded]
    omega
  exact List.length_eq_two.1 hlength

/-! ## Months in texts -/

theorem splitYear_eq_some {cs : List Char} {sign : Char} {year rest : List Char} :
    splitYear cs = some (sign, year, rest) ↔
      cs = sign :: (year ++ rest) ∧ (sign = '+' ∨ sign = '-') ∧ year ≠ [] ∧
        (∀ c ∈ year, isDecimalDigit c = true) ∧ ∀ c ∈ rest.head?, isDecimalDigit c = false := by
  constructor
  · intro h
    cases cs with
    | nil => exact absurd h (by simp [splitYear])
    | cons c cs =>
      rw [splitYear] at h
      split at h
      · rename_i hparts
        cases h
        refine ⟨by rw [List.takeWhile_append_dropWhile], hparts.1, hparts.2,
          fun d hd => List.mem_takeWhile_imp hd, fun d hd => ?_⟩
        have hstop := List.head?_dropWhile_not isDecimalDigit cs
        rw [hd] at hstop
        exact hstop
      · exact absurd h (by simp)
  · rintro ⟨rfl, hsign, hne, hdigits, hrest⟩
    have hstop : rest.takeWhile isDecimalDigit = [] ∧ rest.dropWhile isDecimalDigit = rest := by
      cases rest with
      | nil => exact ⟨rfl, rfl⟩
      | cons c rest =>
        have hc : isDecimalDigit c = false := hrest c rfl
        simp [hc]
    simp only [splitYear, List.takeWhile_append_of_pos hdigits,
      List.dropWhile_append_of_pos hdigits, hstop, List.append_nil]
    exact if_pos ⟨hsign, hne⟩

/-- **What a text with a month starts with**: a sign, a year, a hyphen and the two digits of the
month, where digits are those of any script. -/
theorem splitMonth_eq_some {cs : List Char} {sign : Char} {year : List Char} {tens ones : Char} :
    splitMonth cs = some (sign, year, tens, ones) ↔
      ∃ rest, cs = sign :: (year ++ '-' :: tens :: ones :: rest) ∧ (sign = '+' ∨ sign = '-') ∧
        year ≠ [] ∧ (∀ c ∈ year, isDecimalDigit c = true) ∧ isDecimalDigit tens = true ∧
        isDecimalDigit ones = true := by
  constructor
  · intro h
    unfold splitMonth at h
    split at h
    · rename_i rest hyear
      split at h
      · rename_i hmonth
        cases h
        obtain ⟨rfl, hsign, hne, hdigits, -⟩ := splitYear_eq_some.1 hyear
        exact ⟨rest, rfl, hsign, hne, hdigits, hmonth⟩
      · exact absurd h (by simp)
    · exact absurd h (by simp)
  · rintro ⟨rest, rfl, hsign, hne, hdigits, hmonth⟩
    have hhyphen : ∀ c ∈ ('-' :: tens :: ones :: rest).head?, isDecimalDigit c = false := by
      intro c hc
      cases hc
      decide
    have hyear := splitYear_eq_some.2 ⟨rfl, hsign, hne, hdigits, hhyphen⟩
    simp only [splitMonth, hyear]
    exact if_pos hmonth

/-- A month with a value is found after any year. -/
theorem splitMonth_of_asciiValue? {sign tens ones : Char} {year : List Char} {month : Nat}
    (rest : List Char) (hsign : sign = '+' ∨ sign = '-') (hne : year ≠ [])
    (hyear : ∀ c ∈ year, isDecimalDigit c = true) (hmonth : asciiValue? [tens, ones] = some month) :
    splitMonth (sign :: (year ++ '-' :: tens :: ones :: rest)) = some (sign, year, tens, ones) := by
  have hdigits := isDecimalDigit_of_asciiValue? hmonth
  exact splitMonth_eq_some.2
    ⟨rest, rfl, hsign, hne, hyear, hdigits tens (by simp), hdigits ones (by simp)⟩

/-- The text starts with a sign, a year and a month, both in ASCII digits, and goes on with `rest`. -/
def StartsWithMonth (cs : List Char) (sign : Char) (year month : Nat) (rest : List Char) : Prop :=
  ∃ digits tens ones, cs = sign :: (digits ++ '-' :: tens :: ones :: rest) ∧
    (sign = '+' ∨ sign = '-') ∧ digits ≠ [] ∧ asciiValue? digits = some year ∧
    asciiValue? [tens, ones] = some month

/-- What starts with a month in ASCII digits starts with a month. -/
theorem StartsWithMonth.split {cs rest : List Char} {sign : Char} {year month : Nat}
    (h : StartsWithMonth cs sign year month rest) :
    ∃ digits tens ones, splitMonth cs = some (sign, digits, tens, ones) ∧
      asciiValue? digits = some year ∧ asciiValue? [tens, ones] = some month := by
  obtain ⟨digits, tens, ones, rfl, hsign, hne, hyear, hmonth⟩ := h
  have hdigits := isDecimalDigit_of_asciiValue? hyear
  exact ⟨digits, tens, ones, splitMonth_of_asciiValue? rest hsign hne hdigits hmonth, hyear, hmonth⟩

/-! ## Counting -/

/-- The value of a year with its sign. -/
def signedYear (sign : Char) (year : Nat) : Int := if sign = '+' then year else -year

/-- The number of a month, counted through all years. -/
def monthCount (sign : Char) (year month : Nat) : Int := 12 * signedYear sign year + month

/-- The year can be counted up in 64 bits. -/
def YearCounts (sign : Char) (year : Nat) : Prop :=
  year < UInt64.size ∧ ∃ next < UInt64.size, signedYear sign next = signedYear sign year + 1

/-- **The shifted year** is the one whose value with the sign is greater by one, in at least as many
digits.  Both have to fit in 64 bits. -/
theorem shiftYear?_eq_some {sign : Char} {year shifted : List Char}
    (hsign : sign = '+' ∨ sign = '-') :
    shiftYear? sign year = some shifted ↔
      ∃ n m, asciiValue? year = some n ∧ n < UInt64.size ∧ m < UInt64.size ∧
        signedYear sign m = signedYear sign n + 1 ∧ shifted = padded year.length m := by
  unfold shiftYear?
  rcases hsign with rfl | rfl
  · cases hyear : asciiValue? year with
    | none => simp
    | some n =>
      simp only [if_pos, Option.ite_none_right_eq_some, Option.some.injEq, signedYear]
      constructor
      · rintro ⟨hsize, rfl⟩
        exact ⟨n, n + 1, rfl, by omega, hsize, by omega, rfl⟩
      · rintro ⟨n', m, rfl, -, hsize, hvalue, rfl⟩
        obtain rfl : m = n + 1 := by omega
        exact ⟨hsize, rfl⟩
  · cases hyear : asciiValue? year with
    | none => simp
    | some n =>
      have hminus : ('-' : Char) ≠ '+' := by decide
      simp only [if_neg hminus, Option.ite_none_right_eq_some, Option.some.injEq, signedYear]
      constructor
      · rintro ⟨⟨hpos, hsize⟩, rfl⟩
        exact ⟨n, n - 1, rfl, hsize, by omega, by omega, rfl⟩
      · rintro ⟨n', m, rfl, hsize, -, hvalue, rfl⟩
        obtain rfl : m = n - 1 := by omega
        exact ⟨⟨by omega, hsize⟩, rfl⟩

/-- How the following month comes about, where digits are those of any script unless they are counted
up. -/
inductive MonthStep : (instant following : List Char) → Prop
  /-- January of the shifted year follows December. -/
  | december {sign : Char} {year shifted rest : List Char} : (sign = '+' ∨ sign = '-') →
      year ≠ [] → (∀ c ∈ year, isDecimalDigit c = true) → shiftYear? sign year = some shifted →
      MonthStep (sign :: (year ++ '-' :: '1' :: '2' :: rest))
        (sign :: (shifted ++ '-' :: padded 2 1 ++ startOfDay))
  /-- Any other month is counted up, and the year stays as it is written. -/
  | within {sign tens ones : Char} {year rest : List Char} {month : Nat} :
      (sign = '+' ∨ sign = '-') → year ≠ [] → (∀ c ∈ year, isDecimalDigit c = true) →
      asciiValue? [tens, ones] = some month → month ≠ 12 →
      MonthStep (sign :: (year ++ '-' :: tens :: ones :: rest))
        (sign :: (year ++ '-' :: padded 2 (month + 1) ++ startOfDay))

theorem shiftMonth?_of_ne_twelve {sign tens ones : Char} {year : List Char} {month : Nat}
    (hmonth : asciiValue? [tens, ones] = some month) (hne : month ≠ 12) :
    shiftMonth? sign year tens ones = some (year, padded 2 (month + 1)) := by
  -- December is told by its digits, the other months by their value
  have hother : ¬ (tens = '1' ∧ ones = '2') := by
    intro htwelve
    rw [asciiValue?_pair_twelve.2 htwelve] at hmonth
    exact hne (Option.some.inj hmonth).symm
  rw [shiftMonth?, if_neg hother, hmonth]
  rfl

/-- **The following month**, where there is one, comes about in one of the two ways. -/
theorem followingMonth?_eq_some {cs following : List Char} :
    followingMonth? cs = some following ↔ MonthStep cs following := by
  constructor
  · intro h
    unfold followingMonth? at h
    split at h
    · exact absurd h (by simp)
    · rename_i sign year tens ones hsplit
      obtain ⟨rest, rfl, hsign, hne, hyear, -, -⟩ := splitMonth_eq_some.1 hsplit
      obtain ⟨⟨year', month'⟩, hshift, rfl⟩ := Option.map_eq_some_iff.1 h
      by_cases htwelve : tens = '1' ∧ ones = '2'
      · obtain ⟨rfl, rfl⟩ := htwelve
        obtain ⟨shifted, hshifted, heq⟩ := Option.map_eq_some_iff.1 hshift
        cases heq
        exact .december hsign hne hyear hshifted
      · rw [shiftMonth?, if_neg htwelve] at hshift
        obtain ⟨month, hmonth, heq⟩ := Option.map_eq_some_iff.1 hshift
        cases heq
        refine .within hsign hne hyear hmonth ?_
        rintro rfl
        exact htwelve (asciiValue?_pair_twelve.1 hmonth)
  · intro h
    cases h with
    | @december sign year shifted rest hsign hne hyear hshifted =>
      have htwelve : asciiValue? ['1', '2'] = some 12 := rfl
      rw [followingMonth?, splitMonth_of_asciiValue? rest hsign hne hyear htwelve]
      simp only [shiftMonth?, hshifted]
      rfl
    | @within sign tens ones year rest month hsign hne hyear hmonth hother =>
      rw [followingMonth?, splitMonth_of_asciiValue? rest hsign hne hyear hmonth]
      simp only [shiftMonth?_of_ne_twelve hmonth hother]
      rfl

/-! ## The next month -/

/-- The second text is the start of the month right after the one that the first starts with. -/
def IsNextMonth (instant following : List Char) : Prop :=
  ∃ sign year month rest year' month',
    StartsWithMonth instant sign year month rest ∧ month ≤ 12 ∧
    StartsWithMonth following sign year' month' startOfDay ∧ 1 ≤ month' ∧ month' ≤ 12 ∧
    monthCount sign year' month' = monthCount sign year month + 1

section

variable {sign : Char} {digits : List Char} {year month : Nat}

/-- A month is found again where it is written in at least two digits. -/
theorem isSome_splitMonth_padded (hsign : sign = '+' ∨ sign = '-') (hne : digits ≠ [])
    (hdigits : ∀ c ∈ digits, isDecimalDigit c = true) (month : Nat) :
    (splitMonth (sign :: (digits ++ '-' :: padded 2 month ++ startOfDay))).isSome = true := by
  have hlength : 2 ≤ (padded 2 month).length := by
    rw [length_padded]
    omega
  have hmonth := isDecimalDigit_of_asciiValue? (asciiValue?_padded 2 month)
  obtain ⟨tens, ones, more, hpadded⟩ : ∃ tens ones more, padded 2 month = tens :: ones :: more := by
    match padded 2 month, hlength with
    | tens :: ones :: more, _ => exact ⟨tens, ones, more, rfl⟩
  rw [hpadded] at hmonth ⊢
  have hsplit := splitMonth_eq_some.2 ⟨more ++ startOfDay, rfl, hsign, hne, hdigits,
    hmonth tens (by simp), hmonth ones (by simp)⟩
  rw [List.append_assoc, List.cons_append, List.cons_append, List.cons_append, hsplit]
  rfl

/-- A month in two digits starts a text with its year. -/
theorem startsWithMonth_padded (hsign : sign = '+' ∨ sign = '-') (hne : digits ≠ [])
    (hyear : asciiValue? digits = some year) (hmonth : month < 100) :
    StartsWithMonth (sign :: (digits ++ '-' :: padded 2 month ++ startOfDay)) sign year month
      startOfDay := by
  have hvalue := asciiValue?_padded 2 month
  obtain ⟨tens, ones, hpadded⟩ := padded_two hmonth
  rw [hpadded] at hvalue ⊢
  exact ⟨digits, tens, ones, by simp, hsign, hne, hyear, hvalue⟩

end

/-- The sign, the year and the month that a text starts with. -/
theorem StartsWithMonth.eq_of_split {cs rest digits : List Char} {sign sign' tens ones : Char}
    {year month : Nat} (h : StartsWithMonth cs sign year month rest)
    (hsplit : splitMonth cs = some (sign', digits, tens, ones)) :
    sign = sign' ∧ asciiValue? digits = some year ∧ asciiValue? [tens, ones] = some month := by
  obtain ⟨_, _, _, hsplit', hyear, hmonth⟩ := h.split
  cases hsplit.symm.trans hsplit'
  exact ⟨rfl, hyear, hmonth⟩

namespace MonthStep

variable {cs following rest : List Char} {sign : Char} {year month : Nat}

/-- What follows a month of a year in ASCII digits: January of the next year after December, else a
month counted up in the same year. -/
theorem of_start (h : MonthStep cs following) (hstart : StartsWithMonth cs sign year month rest) :
    (sign = '+' ∨ sign = '-') ∧
    ((month = 12 ∧ ∃ width next, year < UInt64.size ∧ next < UInt64.size ∧
        signedYear sign next = signedYear sign year + 1 ∧
        following = sign :: (padded width next ++ '-' :: padded 2 1 ++ startOfDay)) ∨
      (month ≠ 12 ∧ month < 100 ∧ ∃ digits, digits ≠ [] ∧ asciiValue? digits = some year ∧
        following = sign :: (digits ++ '-' :: padded 2 (month + 1) ++ startOfDay))) := by
  cases h with
  | @december _ digits shifted more hsign hne hdigits hshifted =>
    have htwelve : asciiValue? ['1', '2'] = some 12 := rfl
    obtain ⟨rfl, hyear, hmonth⟩ :=
      hstart.eq_of_split (splitMonth_of_asciiValue? more hsign hne hdigits htwelve)
    obtain ⟨n, next, hn, hsize, hsize', hnext, rfl⟩ := (shiftYear?_eq_some hsign).1 hshifted
    obtain rfl : year = n := Option.some.inj (hyear.symm.trans hn)
    have hlast : month = 12 := Option.some.inj (hmonth.symm.trans htwelve)
    exact ⟨hsign, .inl ⟨hlast, digits.length, next, hsize, hsize', hnext, rfl⟩⟩
  | @within _ tens ones digits more number hsign hne hdigits hnumber hother =>
    obtain ⟨rfl, hyear, hmonth⟩ :=
      hstart.eq_of_split (splitMonth_of_asciiValue? more hsign hne hdigits hnumber)
    obtain rfl : number = month := Option.some.inj (hnumber.symm.trans hmonth)
    exact ⟨hsign, .inr ⟨hother, asciiValue?_pair_lt hnumber, digits, hne, hyear, rfl⟩⟩

/-- A month of a year in ASCII digits is followed by another, unless it is the December of a year that
cannot be counted up in 64 bits. -/
theorem exists_iff (hstart : StartsWithMonth cs sign year month rest) :
    (∃ following, MonthStep cs following) ↔ (month = 12 → YearCounts sign year) := by
  constructor
  · rintro ⟨following, h⟩ htwelve
    obtain ⟨-, ⟨-, _, next, hsize, hsize', hnext, -⟩ | ⟨hother, -⟩⟩ := h.of_start hstart
    · exact ⟨hsize, next, hsize', hnext⟩
    · exact absurd htwelve hother
  · intro hcounts
    obtain ⟨digits, tens, ones, rfl, hsign, hne, hyear, hmonth⟩ := hstart
    have hdigits := isDecimalDigit_of_asciiValue? hyear
    by_cases htwelve : month = 12
    · subst htwelve
      obtain ⟨rfl, rfl⟩ := asciiValue?_pair_twelve.1 hmonth
      obtain ⟨hsize, next, hsize', hnext⟩ := hcounts rfl
      have hshifted := (shiftYear?_eq_some hsign).2 ⟨year, next, hyear, hsize, hsize', hnext, rfl⟩
      exact ⟨_, .december hsign hne hdigits hshifted⟩
    · exact ⟨_, .within hsign hne hdigits hmonth htwelve⟩

/-- What follows starts with a month again. -/
theorem isSome_split (h : MonthStep cs following) : (splitMonth following).isSome = true := by
  cases h with
  | december hsign hne hyear hshifted =>
    obtain ⟨n, m, -, -, -, -, rfl⟩ := (shiftYear?_eq_some hsign).1 hshifted
    exact isSome_splitMonth_padded hsign (padded_ne_nil _ m)
      (isDecimalDigit_of_asciiValue? (asciiValue?_padded _ m)) 1
  | within hsign hne hyear hmonth hother => exact isSome_splitMonth_padded hsign hne hyear _

/-- A month of a year in ASCII digits is counted up.  Only 99 has no two digits to be counted up to,
and what follows it starts like a tenth month. -/
theorem counted (h : MonthStep cs following) (hstart : StartsWithMonth cs sign year month rest) :
    (month ≠ 99 ∧ ∃ year' month', StartsWithMonth following sign year' month' startOfDay ∧
      1 ≤ month' ∧ (month ≤ 12 → month' ≤ 12) ∧
      monthCount sign year' month' = monthCount sign year month + 1) ∨
    (month = 99 ∧ StartsWithMonth following sign year 10 ('0' :: startOfDay)) := by
  obtain ⟨hsign, ⟨rfl, width, next, -, -, hnext, rfl⟩ | ⟨hother, hlt, digits, hne, hyear, rfl⟩⟩ :=
    h.of_start hstart
  · have hfollowing := startsWithMonth_padded hsign (padded_ne_nil width next)
      (asciiValue?_padded width next) (by decide : 1 < 100)
    refine .inl ⟨by decide, next, 1, hfollowing, le_refl 1, fun _ => by decide, ?_⟩
    rw [monthCount, monthCount, hnext]
    omega
  · by_cases hlast : month = 99
    · subst hlast
      -- the third digit is not read as one of the month: it starts the rest
      have hhundred : padded 2 (99 + 1) = ['1', '0', '0'] := by decide
      exact .inr ⟨rfl, digits, '1', '0', by simp [hhundred], hsign, hne, hyear, rfl⟩
    · have htwo : month + 1 < 100 := by omega
      have hfollowing := startsWithMonth_padded hsign hne hyear htwo
      refine .inl ⟨hlast, year, month + 1, hfollowing, by omega, fun _ => by omega, ?_⟩
      rw [monthCount, monthCount]
      omega

/-- After a month up to 12 of a year in ASCII digits comes the next one. -/
theorem isNextMonth (h : MonthStep cs following) (hstart : StartsWithMonth cs sign year month rest)
    (hle : month ≤ 12) : IsNextMonth cs following := by
  rcases h.counted hstart with ⟨-, year', month', hfollowing, hpos, htop, hcount⟩ | ⟨hlast, -⟩
  · exact ⟨sign, year, month, rest, year', month', hstart, hle, hfollowing, hpos, htop hle, hcount⟩
  · omega

/-- What follows lies after the month, unless this is 99. -/
theorem lt_iff (h : MonthStep cs following) (hstart : StartsWithMonth cs sign year month rest) :
    ∃ year' month' rest', StartsWithMonth following sign year' month' rest' ∧
      (monthCount sign year month < monthCount sign year' month' ↔ month ≠ 99) := by
  rcases h.counted hstart with ⟨hne, year', month', hfollowing, -, -, hcount⟩ | ⟨rfl, hfollowing⟩
  · refine ⟨year', month', _, hfollowing, fun _ => hne, fun _ => ?_⟩
    omega
  · refine ⟨year, 10, _, hfollowing, fun hlt => ?_, fun hne => absurd rfl hne⟩
    rw [monthCount, monthCount] at hlt
    omega

end MonthStep

/-- **When the following month is the next one.**  A text may have none; but if it starts with a month
of a year in ASCII digits, that is so only for the December of a year that cannot be counted up.
Otherwise the following month comes about in one of the two ways, and starts with a month again; it is
the next month exactly if the year is written in ASCII digits and the month is at most 12; and where
the year is, it lies after the month unless this is 99. -/
theorem followingMonth_isNextMonth_iff (instant : String) :
    (followingMonth instant = .error (.malformedDate instant) ∧
      ∀ sign year month rest, StartsWithMonth instant.toList sign year month rest →
        month = 12 ∧ ¬ YearCounts sign year) ∨
    ∃ following, followingMonth instant = .ok following ∧
      MonthStep instant.toList following.toList ∧ (splitMonth following.toList).isSome = true ∧
      (IsNextMonth instant.toList following.toList ↔
        ∃ sign year month rest,
          StartsWithMonth instant.toList sign year month rest ∧ month ≤ 12) ∧
      ∀ sign year month rest, StartsWithMonth instant.toList sign year month rest →
        ∃ year' month' rest', StartsWithMonth following.toList sign year' month' rest' ∧
          (monthCount sign year month < monthCount sign year' month' ↔ month ≠ 99) := by
  cases hfollowing : followingMonth? instant.toList with
  | none =>
    refine .inl ⟨?_, fun sign year month rest hstart => ?_⟩
    · rw [followingMonth, hfollowing]
      rfl
    · refine Classical.not_imp.1 fun hcounts => ?_
      obtain ⟨following, hstep⟩ := (MonthStep.exists_iff hstart).2 hcounts
      rw [followingMonth?_eq_some.2 hstep] at hfollowing
      exact absurd hfollowing (by simp)
  | some following =>
    have hstep := followingMonth?_eq_some.1 hfollowing
    refine .inr ⟨String.ofList following, ?_, ?_⟩
    · rw [followingMonth, hfollowing]
      rfl
    · rw [String.toList_ofList]
      refine ⟨hstep, hstep.isSome_split, ⟨?_, ?_⟩, fun _ _ _ _ hstart => hstep.lt_iff hstart⟩
      · rintro ⟨sign, year, month, rest, -, -, hstart, hle, -⟩
        exact ⟨sign, year, month, rest, hstart, hle⟩
      · rintro ⟨sign, year, month, rest, hstart, hle⟩
        exact hstep.isNextMonth hstart hle

/-- What follows the month 99 is no month at all. -/
theorem followingMonth_isNextMonth_iff_ninetyNine :
    followingMonth "+1789-99-00T00:00:00Z" = .ok "+1789-100-00T00:00:00Z" ∧
    (IsNextMonth "+1789-99-00T00:00:00Z".toList "+1789-100-00T00:00:00Z".toList ↔
      ∃ sign year month rest,
        StartsWithMonth "+1789-99-00T00:00:00Z".toList sign year month rest ∧ month ≤ 12) ∧
    ¬ IsNextMonth "+1789-99-00T00:00:00Z".toList "+1789-100-00T00:00:00Z".toList := by
  have hok : followingMonth "+1789-99-00T00:00:00Z" = .ok "+1789-100-00T00:00:00Z" := by decide
  rcases followingMonth_isNextMonth_iff "+1789-99-00T00:00:00Z" with
    ⟨herror, -⟩ | ⟨following, hfollowing, -, -, hnext, -⟩
  · exact absurd (herror.symm.trans hok) (by simp)
  · obtain rfl := Except.ok.inj (hfollowing.symm.trans hok)
    refine ⟨hok, hnext, fun h => ?_⟩
    obtain ⟨sign, year, month, rest, hstart, hle⟩ := hnext.1 h
    have hsplit : splitMonth "+1789-99-00T00:00:00Z".toList =
        some ('+', ['1', '7', '8', '9'], '9', '9') := by decide
    obtain rfl := Option.some.inj (hstart.eq_of_split hsplit).2.2
    exact absurd hle (by decide)

end WikibaseQuery

import WikibaseQuery.Proofs.Months

/-!
# The year after a year

A year is told by a sign and digits, and only digits of ASCII have a value.  The year that follows is
greater by one with its sign, in as many digits as before unless it needs more.  Twelve months are a
year: the year changes once among them, in December, and is then counted up as a year is.

* `shiftYear?_isNextYear` — what is counted up is the next year, in at least the old width;
* `followingYear_outcome` — which texts have a following year, and what it is;
* `monthsAfter_within` — the year stays as it is written up to December;
* `monthsAfter_twelve` — twelve months after a month lies the same month of the following year.
-/

namespace WikibaseQuery

/-! ## Years in texts -/

/-- The text starts with a sign and a year, and the year is written in ASCII digits and ends where no
digit of any script follows. -/
def StartsWithYear (cs : List Char) (sign : Char) (digits : List Char) (year : Nat) : Prop :=
  ∃ rest, cs = sign :: (digits ++ rest) ∧ (sign = '+' ∨ sign = '-') ∧ digits ≠ [] ∧
    asciiValue? digits = some year ∧ ∀ c ∈ rest.head?, isDecimalDigit c = false

/-- What is split off as a year and has a value is what the text starts with. -/
theorem startsWithYear_iff {cs digits : List Char} {sign : Char} {year : Nat} :
    StartsWithYear cs sign digits year ↔
      (∃ rest, splitYear cs = some (sign, digits, rest)) ∧ asciiValue? digits = some year := by
  constructor
  · rintro ⟨rest, rfl, hsign, hne, hyear, hrest⟩
    have hdigits := isDecimalDigit_of_asciiValue? hyear
    exact ⟨⟨rest, splitYear_eq_some.2 ⟨rfl, hsign, hne, hdigits, hrest⟩⟩, hyear⟩
  · rintro ⟨⟨rest, hsplit⟩, hyear⟩
    obtain ⟨rfl, hsign, hne, -, hrest⟩ := splitYear_eq_some.1 hsplit
    exact ⟨rest, rfl, hsign, hne, hyear, hrest⟩

/-! ## Counting up -/

/-- The second year is the one after the first, and how it is written. -/
structure IsNextYear (sign : Char) (digits : List Char) (year : Nat) (next : List Char)
    (year' : Nat) : Prop where
  /-- Both years are numbers of 64 bits. -/
  fits : year < UInt64.size ∧ year' < UInt64.size
  counted : signedYear sign year' = signedYear sign year + 1
  value : asciiValue? next = some year'
  /-- Zeros before the year keep the width. -/
  zeros : next = List.replicate (digits.length - (Nat.toDigits 10 year').length) '0' ++
    Nat.toDigits 10 year'
  /-- A width grows only by a carry. -/
  longer : digits.length < next.length → digits.length < (Nat.toDigits 10 (year + 1)).length

/-- A year has no more digits than a greater one. -/
theorem length_toDigits_le {m n : Nat} (h : m ≤ n) :
    (Nat.toDigits 10 m).length ≤ (Nat.toDigits 10 n).length := by
  have hpos : 0 < (Nat.toDigits 10 n).length := List.length_pos_of_ne_nil Nat.toDigits_ne_nil
  refine (Nat.length_toDigits_le_iff (by decide) hpos).2 ?_
  have hn : n < 10 ^ (Nat.toDigits 10 n).length :=
    (Nat.length_toDigits_le_iff (by decide) hpos).1 (le_refl _)
  omega

/-- The signed value of the next year leaves only one year after each sign. -/
theorem le_succ_of_signedYear {sign : Char} {year year' : Nat}
    (h : signedYear sign year' = signedYear sign year + 1) : year' ≤ year + 1 := by
  unfold signedYear at h
  split at h <;> omega

/-- **What is counted up** is the next year, in at least the old width. -/
theorem shiftYear?_isNextYear {sign : Char} {digits next : List Char}
    (hsign : sign = '+' ∨ sign = '-') (h : shiftYear? sign digits = some next) :
    ∃ year year', asciiValue? digits = some year ∧ IsNextYear sign digits year next year' := by
  obtain ⟨year, year', hyear, hsize, hsize', hcounted, rfl⟩ := (shiftYear?_eq_some hsign).1 h
  refine ⟨year, year', hyear, ⟨hsize, hsize'⟩, hcounted, asciiValue?_padded _ _, rfl, ?_⟩
  intro hlonger
  have hwidth := length_toDigits_le (le_succ_of_signedYear hcounted)
  rw [length_padded] at hlonger
  omega

/-- A year with a value is counted up exactly if it is in the range for its sign. -/
theorem exists_shiftYear?_iff {sign : Char} {digits : List Char} {year : Nat}
    (hsign : sign = '+' ∨ sign = '-') (hyear : asciiValue? digits = some year) :
    (∃ next, shiftYear? sign digits = some next) ↔ YearCounts sign year := by
  constructor
  · rintro ⟨next, h⟩
    obtain ⟨n, m, hn, hsize, hsize', hcounted, -⟩ := (shiftYear?_eq_some hsign).1 h
    obtain rfl : year = n := Option.some.inj (hyear.symm.trans hn)
    exact ⟨hsize, m, hsize', hcounted⟩
  · rintro ⟨hsize, m, hsize', hcounted⟩
    exact ⟨_, (shiftYear?_eq_some hsign).2 ⟨year, m, hyear, hsize, hsize', hcounted, rfl⟩⟩

/-- After `+` the last year of 64 bits has none after it, and before zero the first one has. -/
theorem yearCounts_iff {sign : Char} {year : Nat} (hsign : sign = '+' ∨ sign = '-') :
    YearCounts sign year ↔
      sign = '+' ∧ year ≤ UInt64.size - 2 ∨
        sign = '-' ∧ 1 ≤ year ∧ year ≤ UInt64.size - 1 := by
  have hsize : UInt64.size = 18446744073709551616 := rfl
  unfold YearCounts signedYear
  rcases hsign with rfl | rfl
  · constructor
    · rintro ⟨hlt, next, hnext, hcounted⟩
      simp only [if_pos] at hcounted
      exact .inl ⟨rfl, by omega⟩
    · rintro (⟨-, hle⟩ | ⟨hminus, -⟩)
      · exact ⟨by omega, year + 1, by omega, by simp⟩
      · exact absurd hminus (by decide)
  · have hminus : ('-' : Char) ≠ '+' := by decide
    simp only [if_neg hminus]
    constructor
    · rintro ⟨hlt, next, hnext, hcounted⟩
      exact .inr ⟨trivial, by omega, by omega⟩
    · rintro (⟨hplus, -⟩ | ⟨-, hpos, hle⟩)
      · exact absurd hplus hminus
      · exact ⟨by omega, year - 1, by omega, by omega⟩

/-! ## The following year -/

theorem followingYear?_eq_some {cs following : List Char} :
    followingYear? cs = some following ↔
      ∃ sign digits rest next, splitYear cs = some (sign, digits, rest) ∧
        shiftYear? sign digits = some next ∧
        following = sign :: (next ++ "-00".toList ++ startOfDay) := by
  unfold followingYear?
  constructor
  · intro h
    split at h
    · exact absurd h (by simp)
    · rename_i sign digits rest hsplit
      obtain ⟨next, hnext, rfl⟩ := Option.map_eq_some_iff.1 h
      exact ⟨sign, digits, rest, next, hsplit, hnext, rfl⟩
  · rintro ⟨sign, digits, rest, next, hsplit, hnext, rfl⟩
    rw [hsplit]
    simp only [hnext]
    rfl

theorem instantOr_eq_ok {instant following : String} {computed : Option (List Char)} :
    instantOr instant computed = .ok following ↔ computed = some following.toList := by
  cases computed with
  | none => simp [instantOr]
  | some cs =>
    have hiff : String.ofList cs = following ↔ cs = following.toList :=
      ⟨fun h => by rw [← h, String.toList_ofList], fun h => by rw [h, String.ofList_toList]⟩
    simpa [instantOr] using hiff

/-- The error carries the instant that was given. -/
theorem instantOr_eq_error {instant : String} {computed : Option (List Char)} {e : CompileError}
    (h : instantOr instant computed = .error e) : e = .malformedDate instant := by
  cases computed with
  | none => exact (Except.error.inj h).symm
  | some cs => exact absurd h (by simp [instantOr])

/-- **Which texts have a following year, and what it is.**  The text has to start with a sign and a
year in ASCII digits, up to the last but one of 64 bits after `+` and from 1 on after `-`; every other
text is given back in the error.  The following year has the same sign, is written in at least the
old width, and starts with no month and no day. -/
theorem followingYear_outcome (instant : String) :
    ((∃ following, followingYear instant = .ok following) ↔
      ∃ sign digits year, StartsWithYear instant.toList sign digits year ∧
        (sign = '+' ∧ year ≤ UInt64.size - 2 ∨
          sign = '-' ∧ 1 ≤ year ∧ year ≤ UInt64.size - 1)) ∧
    (∀ e, followingYear instant = .error e → e = .malformedDate instant) ∧
    ∀ following, followingYear instant = .ok following →
      ∃ sign digits year next year', StartsWithYear instant.toList sign digits year ∧
        IsNextYear sign digits year next year' ∧
        following.toList = sign :: (next ++ "-00-00T00:00:00Z".toList) := by
  have hok : ∀ following, followingYear instant = .ok following ↔
      followingYear? instant.toList = some following.toList := fun _ => instantOr_eq_ok
  refine ⟨⟨?_, ?_⟩, fun e he => instantOr_eq_error he, ?_⟩
  · rintro ⟨following, h⟩
    obtain ⟨sign, digits, rest, next, hsplit, hnext, -⟩ :=
      followingYear?_eq_some.1 ((hok following).1 h)
    have hsign := (splitYear_eq_some.1 hsplit).2.1
    obtain ⟨year, year', hyear, -⟩ := shiftYear?_isNextYear hsign hnext
    have hcounts := (exists_shiftYear?_iff hsign hyear).1 ⟨next, hnext⟩
    exact ⟨sign, digits, year, startsWithYear_iff.2 ⟨⟨rest, hsplit⟩, hyear⟩,
      (yearCounts_iff hsign).1 hcounts⟩
  · rintro ⟨sign, digits, year, hstart, hrange⟩
    obtain ⟨⟨rest, hsplit⟩, hyear⟩ := startsWithYear_iff.1 hstart
    have hsign := (splitYear_eq_some.1 hsplit).2.1
    obtain ⟨next, hnext⟩ := (exists_shiftYear?_iff hsign hyear).2 ((yearCounts_iff hsign).2 hrange)
    have hfollowing := followingYear?_eq_some.2 ⟨sign, digits, rest, next, hsplit, hnext, rfl⟩
    refine ⟨String.ofList (sign :: (next ++ "-00".toList ++ startOfDay)), (hok _).2 ?_⟩
    rw [String.toList_ofList]
    exact hfollowing
  · intro following h
    obtain ⟨sign, digits, rest, next, hsplit, hnext, hfollowing⟩ :=
      followingYear?_eq_some.1 ((hok following).1 h)
    have hsign := (splitYear_eq_some.1 hsplit).2.1
    obtain ⟨year, year', hyear, hisNext⟩ := shiftYear?_isNextYear hsign hnext
    refine ⟨sign, digits, year, next, year', startsWithYear_iff.2 ⟨⟨rest, hsplit⟩, hyear⟩,
      hisNext, ?_⟩
    rw [hfollowing, List.append_assoc]
    rfl

/-- Nearer to zero the width stays, although fewer digits would do. -/
example : followingYear "-1000-05" = .ok "-0999-00-00T00:00:00Z" := by decide

/-! ## Twelve months -/

/-- The first instant of the month that comes some months after the one of `instant`. -/
def monthsAfter : Nat → String → Except CompileError String
  | 0, instant => .ok instant
  | count + 1, instant => followingMonth instant >>= monthsAfter count

theorem monthsAfter_succ (count : Nat) (instant : String) :
    monthsAfter (count + 1) instant = followingMonth instant >>= monthsAfter count := rfl

/-- Months after months are counted together. -/
theorem monthsAfter_add (first second : Nat) (instant : String) :
    monthsAfter (first + second) instant = monthsAfter first instant >>= monthsAfter second := by
  induction first generalizing instant with
  | zero =>
    rw [Nat.zero_add]
    rfl
  | succ first ih =>
    rw [Nat.succ_add, monthsAfter_succ, monthsAfter_succ]
    cases followingMonth instant with
    | error e => rfl
    | ok following => exact ih following

/-- The text of a month with its year, and what follows it. -/
def monthText (sign : Char) (digits : List Char) (month : Nat) (rest : List Char) : String :=
  String.ofList (sign :: (digits ++ '-' :: padded 2 month ++ rest))

/-- Two digits with a value are those of the value. -/
theorem padded_two_of_asciiValue? {tens ones : Char} {month : Nat}
    (h : asciiValue? [tens, ones] = some month) : padded 2 month = [tens, ones] := by
  obtain ⟨tens', ones', hpadded⟩ := padded_two (asciiValue?_pair_lt h)
  have hvalue : asciiValue? [tens', ones'] = some month := hpadded ▸ asciiValue?_padded 2 month
  obtain ⟨⟨htens, hones⟩, hsum⟩ := asciiValue?_pair.1 h
  obtain ⟨⟨htens', hones'⟩, hsum'⟩ := asciiValue?_pair.1 hvalue
  have hrange : ∀ c : Char, c.isDigit = true → 48 ≤ c.toNat ∧ c.toNat ≤ 57 :=
    fun c hc => Char.isDigit_iff_toNat.1 hc
  have htens := hrange tens htens
  have hones := hrange ones hones
  have htens' := hrange tens' htens'
  have hones' := hrange ones' hones'
  have hsame : tens'.toNat = tens.toNat ∧ ones'.toNat = ones.toNat := by omega
  rw [hpadded, Char.toNat_inj.1 hsame.1, Char.toNat_inj.1 hsame.2]

section

variable {sign : Char} {digits : List Char} {month : Nat} (rest : List Char)
  (hsign : sign = '+' ∨ sign = '-') (hne : digits ≠ [])
  (hdigits : ∀ c ∈ digits, isDecimalDigit c = true)
include hsign hne hdigits

/-! ### One month -/

/-- Before December the month is counted up, and the year stays as it is written. -/
theorem followingMonth_within (hmonth : month < 12) :
    followingMonth (monthText sign digits month rest) =
      .ok (monthText sign digits (month + 1) startOfDay) := by
  obtain ⟨tens, ones, hpadded⟩ := padded_two (show month < 100 by omega)
  have hvalue : asciiValue? [tens, ones] = some month := hpadded ▸ asciiValue?_padded 2 month
  have hstep : MonthStep (sign :: (digits ++ '-' :: tens :: ones :: rest))
      (sign :: (digits ++ '-' :: padded 2 (month + 1) ++ startOfDay)) :=
    .within hsign hne hdigits hvalue (by omega)
  refine instantOr_eq_ok.2 ?_
  rw [monthText, monthText, String.toList_ofList, String.toList_ofList, hpadded]
  simpa using followingMonth?_eq_some.2 hstep

/-- After December the year is counted up. -/
theorem followingMonth_december :
    followingMonth (monthText sign digits 12 rest) =
      match shiftYear? sign digits with
      | some next => .ok (monthText sign next 1 startOfDay)
      | none => .error (.malformedDate (monthText sign digits 12 rest)) := by
  have htwelve : asciiValue? ['1', '2'] = some 12 := rfl
  have hsplit := splitMonth_of_asciiValue? rest hsign hne hdigits htwelve
  have htext : (monthText sign digits 12 rest).toList =
      sign :: (digits ++ '-' :: '1' :: '2' :: rest) := by
    rw [monthText, String.toList_ofList, padded_two_of_asciiValue? htwelve]
    simp
  rw [followingMonth, htext, followingMonth?, hsplit]
  cases hnext : shiftYear? sign digits with
  | none => simp [shiftMonth?, hnext, instantOr]
  | some next =>
    have hone : padded 2 1 = ['0', '1'] := by decide
    simp [shiftMonth?, hnext, instantOr, monthText, hone]

/-! ### Some months -/

/-- **Up to December** the year stays as it is written. -/
theorem monthsAfter_within {count : Nat} (hcount : month + count ≤ 12) :
    monthsAfter count (monthText sign digits month rest) =
      .ok (monthText sign digits (month + count) (if count = 0 then rest else startOfDay)) := by
  induction count generalizing month rest with
  | zero => rfl
  | succ count ih =>
    have hbefore : month < 12 := by omega
    have hcount' : month + 1 + count ≤ 12 := by omega
    have hmonth : month + 1 + count = month + (count + 1) := by omega
    rw [monthsAfter_succ, followingMonth_within rest hsign hne hdigits hbefore]
    refine (ih startOfDay hcount').trans ?_
    rw [hmonth, ite_self, if_neg (Nat.succ_ne_zero count)]

/-- **A year after a month** lies the same month of the year counted up, if there is one. -/
theorem monthsAfter_year (hpos : 1 ≤ month) (hle : month ≤ 12) :
    monthsAfter 12 (monthText sign digits month rest) =
      match shiftYear? sign digits with
      | some next => .ok (monthText sign next month startOfDay)
      | none => .error (.malformedDate
          (monthText sign digits 12 (if 12 - month = 0 then rest else startOfDay))) := by
  -- up to December, to January, and on to the month
  have htwelve : 12 = (12 - month) + (month - 1 + 1) := by omega
  have hlast : month + (12 - month) = 12 := by omega
  have hmonth : 1 + (month - 1) = month := by omega
  have hbefore : monthsAfter (12 - month) (monthText sign digits month rest) =
      .ok (monthText sign digits 12 (if 12 - month = 0 then rest else startOfDay)) := by
    rw [monthsAfter_within rest hsign hne hdigits (le_of_eq hlast), hlast]
  calc monthsAfter 12 (monthText sign digits month rest)
      = monthsAfter (12 - month) (monthText sign digits month rest) >>=
          monthsAfter (month - 1 + 1) := by rw [← monthsAfter_add, ← htwelve]
    _ = followingMonth (monthText sign digits 12 (if 12 - month = 0 then rest else startOfDay)) >>=
          monthsAfter (month - 1) := by
        rw [hbefore]
        rfl
    _ = _ := by
        rw [followingMonth_december _ hsign hne hdigits]
        cases hnext : shiftYear? sign digits with
        | none => rfl
        | some next =>
          obtain ⟨n, m, -, -, -, -, rfl⟩ := (shiftYear?_eq_some hsign).1 hnext
          have hyear := isDecimalDigit_of_asciiValue? (asciiValue?_padded digits.length m)
          have hcount : 1 + (month - 1) ≤ 12 := by omega
          have hafter := monthsAfter_within startOfDay hsign (padded_ne_nil digits.length m) hyear
            hcount
          rw [hmonth, ite_self] at hafter
          exact hafter

/-- The year after the one that a month belongs to. -/
theorem followingYear_monthText :
    followingYear (monthText sign digits month rest) =
      match shiftYear? sign digits with
      | some next => .ok (String.ofList (sign :: (next ++ "-00".toList ++ startOfDay)))
      | none => .error (.malformedDate (monthText sign digits month rest)) := by
  have hhyphen : ∀ c ∈ ('-' :: (padded 2 month ++ rest)).head?, isDecimalDigit c = false := by
    intro c hc
    cases hc
    decide
  have hsplit := splitYear_eq_some.2 ⟨rfl, hsign, hne, hdigits, hhyphen⟩
  have htext : (monthText sign digits month rest).toList =
      sign :: (digits ++ '-' :: (padded 2 month ++ rest)) := by
    rw [monthText, String.toList_ofList]
    simp
  rw [followingYear, htext, followingYear?, hsplit]
  cases hnext : shiftYear? sign digits <;> simp [hnext, instantOr]

end

/-- **Twelve months are a year.**  From a month of a year in ASCII digits twelve steps succeed exactly
if the year has a following one.  Both then come to the same sign and the same digits, and the twelve
steps to the month that they started from. -/
theorem monthsAfter_twelve {sign tens ones : Char} {digits : List Char} {month : Nat}
    (hsign : sign = '+' ∨ sign = '-') (hne : digits ≠ [])
    (hdigits : ∀ c ∈ digits, c.isDigit = true) (hmonth : asciiValue? [tens, ones] = some month)
    (hpos : 1 ≤ month) (hle : month ≤ 12) {tail : List Char} {instant : String}
    (hinstant : instant.toList = sign :: (digits ++ '-' :: tens :: ones :: tail)) :
    ((∃ later, monthsAfter 12 instant = .ok later) ↔
      ∃ following, followingYear instant = .ok following) ∧
    ∀ later following, monthsAfter 12 instant = .ok later →
      followingYear instant = .ok following →
      ∃ next, next ≠ [] ∧ (∀ c ∈ next, c.isDigit = true) ∧
        later.toList = sign :: (next ++ '-' :: tens :: ones :: startOfDay) ∧
        following.toList = sign :: (next ++ "-00".toList ++ startOfDay) := by
  have hpadded := padded_two_of_asciiValue? hmonth
  have hdecimal : ∀ c ∈ digits, isDecimalDigit c = true :=
    fun c hc => isDecimalDigit_of_isDigit (hdigits c hc)
  have htext : instant = monthText sign digits month tail := by
    rw [← String.toList_inj, hinstant, monthText, String.toList_ofList, hpadded]
    simp
  rw [htext, monthsAfter_year tail hsign hne hdecimal hpos hle,
    followingYear_monthText tail hsign hne hdecimal]
  cases hnext : shiftYear? sign digits with
  | none => exact ⟨by simp, fun later following h => absurd h (by simp)⟩
  | some next =>
    obtain ⟨n, m, -, -, -, -, rfl⟩ := (shiftYear?_eq_some hsign).1 hnext
    have hvalue := (asciiValue?_eq_some.1 (asciiValue?_padded digits.length m)).1
    refine ⟨by simp, fun later following hlater hfollowing => ?_⟩
    obtain rfl := Except.ok.inj hlater
    obtain rfl := Except.ok.inj hfollowing
    refine ⟨padded digits.length m, padded_ne_nil _ m, hvalue, ?_, String.toList_ofList⟩
    rw [monthText, String.toList_ofList, hpadded]
    simp

/-- From July of a year before zero to the next July, which needs a zero more to keep the width. -/
theorem monthsAfter_twelve_july :
    ((∃ later, monthsAfter 12 "-100-07-14" = .ok later) ↔
      ∃ following, followingYear "-100-07-14" = .ok following) ∧
    monthsAfter 12 "-100-07-14" = .ok "-099-07-00T00:00:00Z" ∧
    ∃ next, next ≠ [] ∧ (∀ c ∈ next, c.isDigit = true) ∧
      "-099-07-00T00:00:00Z".toList = '-' :: (next ++ '-' :: '0' :: '7' :: startOfDay) ∧
      "-099-00-00T00:00:00Z".toList = '-' :: (next ++ "-00".toList ++ startOfDay) := by
  have hmonth : asciiValue? ['0', '7'] = some 7 := by decide
  have hlater : monthsAfter 12 "-100-07-14" = .ok "-099-07-00T00:00:00Z" := by decide
  have hfollowing : followingYear "-100-07-14" = .ok "-099-00-00T00:00:00Z" := by decide
  have hinstant : "-100-07-14".toList = '-' :: ("100".toList ++ '-' :: '0' :: '7' :: "-14".toList) :=
    by decide
  have htwelve := monthsAfter_twelve (.inr rfl) (by decide) (by decide) hmonth (by decide)
    (by decide) hinstant
  exact ⟨htwelve.1, hlater, htwelve.2 _ _ hlater hfollowing⟩

end WikibaseQuery

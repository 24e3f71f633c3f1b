import WikibaseQuery.Json.Numeral
import WikibaseQuery.Proofs.Rounding

/-!
# When reading in steps is exact

A numeral is read in steps that are each rounded, so that its value need not be the number nearest
to the decimal that it spells.  It is that number where nothing is lost before the last step: where
the digits and the power of ten are numbers of the format themselves.

* `Binary64.exists_units` — up to 53 bits and a power of two make a number of the format;
* `Binary64.mul?_exact`, `Binary64.div?_exact` — products and quotients with a power of ten;
* `Binary64.scaled?_eq_ofDecimal?` — of such digits and powers the steps give the nearest number;
* `Numeral.amount_of_short` — so a short numeral stands for the number nearest to its decimal.
-/

namespace WikibaseQuery

namespace Binary64

variable {negative : Bool} {x p : Binary64} {n k : Nat} {d : Decimal}

/-! ## Numbers of the format -/

/-- Up to 53 bits and a power of two make a number of the format. -/
theorem exists_units (negative : Bool) {m s : Nat} (hm : m < 2 ^ 53) (hs : s ≤ 2045) :
    ∃ x : Binary64, x.negative = negative ∧ x.units = m * Nat.pow 2 s := by
  by_cases hzero : m = 0
  · refine ⟨zero negative, rfl, ?_⟩
    rw [hzero, Nat.zero_mul]
    rfl
  have hlog : m.log2 < 53 := (Nat.log2_lt hzero).mpr hm
  -- the bits are moved up as far as the coefficient, or the power of two, allows
  obtain ⟨shift, hshift, hmost, hfull⟩ : ∃ shift ≤ s, m.log2 + shift ≤ 52 ∧
      (s - shift = 0 ∨ m.log2 + shift = 52) :=
    ⟨min s (52 - m.log2), by omega, by omega, by omega⟩
  have hlt : m * 2 ^ shift < 2 ^ 53 :=
    calc m * 2 ^ shift < 2 ^ (m.log2 + 1) * 2 ^ shift :=
          Nat.mul_lt_mul_of_pos_right Nat.lt_log2_self (Nat.two_pow_pos shift)
      _ = 2 ^ (m.log2 + 1 + shift) := (Nat.pow_add ..).symm
      _ ≤ 2 ^ 53 := Nat.pow_le_pow_right (by decide) (by omega)
  have hcanonical : s - shift = 0 ∨ Nat.pow 2 52 ≤ m * 2 ^ shift := by
    refine hfull.imp_right fun h52 => ?_
    calc 2 ^ 52 = 2 ^ m.log2 * 2 ^ shift := by rw [← Nat.pow_add, h52]
      _ ≤ m * 2 ^ shift := Nat.mul_le_mul_right _ (Nat.log2_self_le hzero)
  refine ⟨⟨negative, m * 2 ^ shift, s - shift, hlt, by omega, hcanonical⟩, rfl, ?_⟩
  calc m * 2 ^ shift * 2 ^ (s - shift) = m * 2 ^ (shift + (s - shift)) := by
        rw [Nat.mul_assoc, ← Nat.pow_add]
    _ = m * 2 ^ s := by rw [Nat.add_sub_of_le hshift]

/-- A decimal that is a number of the format is read as that number. -/
theorem ofDecimal?_of_units (h : (fraction d).1 = x.units * (fraction d).2) :
    ofDecimal? x.negative d = some x := by
  rw [ofDecimal?_eq_round?, ← round?_units x]
  exact round?_ratio (Nat.pow_pos (by decide)) Nat.one_pos (by rw [Nat.mul_one, h])

/-- A natural number of up to 53 bits is read without rounding. -/
theorem exists_natural (negative : Bool) (hn : n < 2 ^ 53) :
    ∃ x : Binary64, ofDecimal? negative ⟨n, 0⟩ = some x ∧ x.negative = negative ∧
      x.units = n * Nat.pow 2 1074 := by
  have hscale : 1074 ≤ 2045 := by decide
  generalize hs : 1074 = s at hscale ⊢
  obtain ⟨x, hsign, hunits⟩ := exists_units negative hn hscale
  refine ⟨x, ?_, hsign, hunits⟩
  rw [← hsign]
  refine ofDecimal?_of_units ?_
  rw [fraction, hunits, hs]
  rfl

/-- The first powers of ten are numbers of the format. -/
theorem exists_tenTo (hk : k ≤ 22) :
    ∃ p : Binary64, tenTo? k = some p ∧ p.negative = false ∧
      p.units = Nat.pow 10 k * Nat.pow 2 1074 := by
  have hfive : 5 ^ k < 2 ^ 53 :=
    Nat.lt_of_le_of_lt (Nat.pow_le_pow_right (by decide) hk) (by decide)
  obtain ⟨p, hsign, hunits⟩ := exists_units false (s := k + 1074) hfive (by omega)
  have hten : p.units = Nat.pow 10 k * Nat.pow 2 1074 := by
    rw [hunits]
    generalize 1074 = s
    calc 5 ^ k * 2 ^ (k + s) = 5 ^ k * 2 ^ k * 2 ^ s := by rw [Nat.pow_add, Nat.mul_assoc]
      _ = (5 * 2) ^ k * 2 ^ s := by rw [Nat.mul_pow]
  refine ⟨p, ?_, hsign, hten⟩
  rw [tenTo?, ← hsign]
  refine ofDecimal?_of_units ?_
  rw [fraction, hten, Int.toNat_natCast, show (-(k : Int)).toNat = 0 by omega]
  generalize Nat.pow 2 1074 = unit
  calc 1 * unit * Nat.pow 10 k = Nat.pow 10 k * unit := by rw [Nat.one_mul, Nat.mul_comm]
    _ = Nat.pow 10 k * unit * Nat.pow 10 0 := (Nat.mul_one _).symm

/-! ## Steps on numbers of the format -/

section

variable (hx : x.units = n * Nat.pow 2 1074) (hsign : p.negative = false)
  (hp : p.units = Nat.pow 10 k * Nat.pow 2 1074)
include hx hsign hp

/-- The product of a number and a power of ten is rounded once. -/
theorem mul?_exact : x.mul? p = ofDecimal? x.negative ⟨n, k⟩ := by
  rw [mul?, ofDecimal?_eq_round?, fraction, hsign, Bool.bne_false, hx, hp, Int.toNat_natCast]
  generalize 1074 = s
  refine round?_ratio (Nat.two_pow_pos s) (Nat.pow_pos (by decide)) ?_
  rw [show (-(k : Int)).toNat = 0 by omega, show Nat.pow 10 0 = 1 from rfl]
  ring

/-- The quotient of a number and a power of ten is rounded once. -/
theorem div?_exact : x.div? p = ofDecimal? x.negative ⟨n, -k⟩ := by
  rw [div?, ofDecimal?_eq_round?, fraction, hsign, Bool.bne_false, hx, hp, Int.neg_neg,
    Int.toNat_natCast]
  generalize 1074 = s
  have hten : 0 < Nat.pow 10 k := Nat.pow_pos (by decide)
  have hdivisor : 0 < Nat.pow 10 k * Nat.pow 2 s := Nat.mul_pos hten (Nat.two_pow_pos s)
  rw [if_neg hdivisor.ne']
  refine round?_ratio hdivisor hten ?_
  rw [show (-(k : Int)).toNat = 0 by omega, show Nat.pow 10 0 = 1 from rfl]
  ring

end

/-- Zero is read without its power of ten. -/
theorem ofDecimal?_zero (negative : Bool) (e : Int) :
    ofDecimal? negative ⟨0, e⟩ = some (zero negative) := if_pos rfl

/-- Digits of up to 53 bits are multiplied in one step. -/
theorem scaled?_up (negative : Bool) (hn : n < 2 ^ 53) (hk : k ≤ 22) :
    scaled? negative ⟨n, k⟩ = ofDecimal? negative ⟨n, k⟩ := by
  obtain ⟨x, hx, hnegative, hunits⟩ := exists_natural negative hn
  obtain ⟨p, hp, hsign, hpower⟩ := exists_tenTo hk
  have hproduct := mul?_exact hunits hsign hpower
  rw [hnegative] at hproduct
  have hexponent : (0 : Int) ≤ k := Int.natCast_nonneg k
  simp only [scaled?, hx, Option.bind_eq_bind, Option.bind_some, if_pos hexponent,
    Int.toNat_natCast, hp]
  by_cases hzero : x.units = 0
  · -- where there is nothing to multiply, nothing is multiplied
    obtain rfl : n = 0 := by
      rw [hunits] at hzero
      generalize 1074 = s at hzero
      exact (Nat.mul_eq_zero.1 hzero).resolve_right (Nat.two_pow_pos s).ne'
    rw [if_pos hzero, ofDecimal?_zero, ← ofDecimal?_zero negative 0, hx]
    rfl
  · rw [if_neg hzero]
    exact hproduct

/-- Digits of up to 53 bits are divided in one step. -/
theorem scaled?_down (negative : Bool) (hn : n < 2 ^ 53) (hk : k ≤ 22) (hpos : 0 < k) :
    scaled? negative ⟨n, -k⟩ = ofDecimal? negative ⟨n, -k⟩ := by
  obtain ⟨x, hx, hnegative, hunits⟩ := exists_natural negative hn
  obtain ⟨p, hp, hsign, hpower⟩ := exists_tenTo hk
  have hquotient := div?_exact hunits hsign hpower
  rw [hnegative] at hquotient
  have hexponent : ¬ (0 : Int) ≤ -k := by omega
  have htimes : (k - 1) / 308 = 0 := Nat.div_eq_of_lt (by omega)
  simp only [scaled?, hx, Option.bind_eq_bind, Option.bind_some, if_neg hexponent, Int.neg_neg,
    Int.toNat_natCast, htimes, shrink?, Nat.mul_zero, Nat.sub_zero, hp]
  exact hquotient

/-- **In steps or at once**: digits of up to 53 bits and a power of ten of up to 22 places give the
nearest number either way. -/
theorem scaled?_eq_ofDecimal? (negative : Bool) (hdigits : d.digits < 2 ^ 53)
    (hplaces : d.exponent.natAbs ≤ 22) : scaled? negative d = ofDecimal? negative d := by
  obtain ⟨digits, exponent⟩ := d
  dsimp only at hdigits hplaces
  by_cases hexponent : 0 ≤ exponent
  · obtain ⟨k, rfl⟩ : ∃ k : Nat, exponent = k := ⟨exponent.natAbs, by omega⟩
    exact scaled?_up negative hdigits (by omega)
  · obtain ⟨k, rfl⟩ : ∃ k : Nat, exponent = -k := ⟨exponent.natAbs, by omega⟩
    exact scaled?_down negative hdigits (by omega) (by omega)

end Binary64

/-! ## Numerals -/

/-- An integer of 64 bits as a number of the format is the nearest one. -/
theorem Number.toFloat_integer {i : Int} (h : i.natAbs < 2 ^ 64) :
    some (Number.integer i).toFloat = Binary64.ofDecimal? (i < 0) ⟨i.natAbs, 0⟩ := by
  obtain ⟨x, hx⟩ := Option.isSome_iff_exists.1 (Binary64.ofDecimal?_isSome (i < 0) h)
  rw [toFloat, hx, Option.getD_some]

namespace Numeral

variable {n : Numeral} {digits : List Char} {start : Nat}

/-- The decimal number that a numeral spells, apart from its sign. -/
def decimal (n : Numeral) : Decimal :=
  ⟨Nat.ofDigitChars 10 (n.whole ++ n.fraction) 0, n.exponent.getD 0 - n.fraction.length⟩

/-- Digits that are put after those of a number do not make it smaller. -/
theorem le_ofDigitChars (start : Nat) (digits : List Char) :
    start ≤ Nat.ofDigitChars 10 digits start := by
  induction digits generalizing start with
  | nil => exact Nat.le_refl start
  | cons digit digits ih =>
    rw [Nat.ofDigitChars_cons]
    exact Nat.le_trans (by omega) (ih _)

/-- Where 64 bits hold all digits, none is left. -/
theorem fill_eq (h : Nat.ofDigitChars 10 digits start < UInt64.size) :
    fill start digits = (Nat.ofDigitChars 10 digits start, 0) := by
  induction digits generalizing start with
  | nil => rfl
  | cons digit digits ih =>
    rw [Nat.ofDigitChars_cons] at h ⊢
    rw [fill, if_pos (Nat.lt_of_le_of_lt (le_ofDigitChars _ digits) h), ih h]

/-- Where 64 bits hold all digits, all that the numeral spells is kept. -/
theorem kept_eq_decimal (h : n.decimal.digits < UInt64.size) : n.kept = n.decimal := by
  rw [decimal, Nat.ofDigitChars_append] at h ⊢
  have hwhole := fill_eq (Nat.lt_of_le_of_lt (le_ofDigitChars _ n.fraction) h)
  simp only [kept, hwhole, fill_eq h, Nat.sub_zero, Nat.cast_zero, Int.add_zero]

/-- A numeral of up to 53 bits and 22 places. -/
structure Short (n : Numeral) : Prop where
  digits : n.decimal.digits < 2 ^ 53
  places : n.decimal.exponent.natAbs ≤ 22

instance (n : Numeral) : Decidable n.Short :=
  decidable_of_iff (n.decimal.digits < 2 ^ 53 ∧ n.decimal.exponent.natAbs ≤ 22)
    ⟨fun h => ⟨h.1, h.2⟩, fun h => ⟨h.digits, h.places⟩⟩

/-- A short numeral is rounded once. -/
theorem float?_of_short (h : n.Short) : n.float? = Binary64.ofDecimal? n.negative n.decimal := by
  have hkept := kept_eq_decimal (Nat.lt_trans h.digits (by decide))
  rw [float?, hkept, Binary64.scaled?_eq_ofDecimal? n.negative h.digits h.places]

/-- **As an amount a short numeral is the nearest number of the format**, be it spelled as an integer
or not. -/
theorem amount_of_short (h : n.Short) :
    n.number?.map Number.toFloat = Binary64.ofDecimal? n.negative n.decimal := by
  have hfloat : (n.float?.map Number.float).map Number.toFloat =
      Binary64.ofDecimal? n.negative n.decimal := by
    rw [← float?_of_short h]
    cases n.float? <;> rfl
  -- without fraction and exponent the digits are the whole number
  have hwhole (hplain : n.fraction = [] ∧ n.exponent = none) :
      n.decimal = ⟨Nat.ofDigitChars 10 n.whole 0, 0⟩ := by
    simp [decimal, hplain]
  unfold number?
  dsimp only
  split_ifs with hplain hnegative hbound hbound
  · have hint := Number.toFloat_integer (i := -(Nat.ofDigitChars 10 n.whole 0 : Int))
      (by simp only [UInt64.size] at hbound; omega)
    have hsign : -(Nat.ofDigitChars 10 n.whole 0 : Int) < 0 := by omega
    rw [Option.map_some, hint, decide_eq_true hsign, hnegative, hwhole hplain, Int.natAbs_neg,
      Int.natAbs_natCast]
  · exact hfloat
  · have hint := Number.toFloat_integer (i := Nat.ofDigitChars 10 n.whole 0)
      (by simp only [UInt64.size] at hbound; omega)
    have hsign : ¬ (Nat.ofDigitChars 10 n.whole 0 : Int) < 0 := by omega
    rw [Option.map_some, hint, decide_eq_false hsign, Bool.eq_false_of_not_eq_true hnegative,
      hwhole hplain, Int.natAbs_natCast]
  · exact hfloat
  · exact hfloat

/-- A longer numeral may miss it: `1e-32` is not read as the number nearest to it. -/
example : float? ⟨false, ['1'], [], some (-32)⟩ ≠ Binary64.ofDecimal? false ⟨1, -32⟩ := by
  decide +kernel

end Numeral

end WikibaseQuery

import Mathlib.Tactic.LinearCombination
import Mathlib.Tactic.Ring
import WikibaseQuery.Decimal.Shortest

/-!
# Decimals that read back

The shortest digits of a number are found by trying, so that they read back by the way they are
found.  What has to be shown is that all digits of a number read back, and that a decimal may change
its form on the way: zeros at the end of its digits stand for the same number as a larger exponent.

* `Binary64.ofDecimal?_eq_round?` — the two tests of size before the rounding only cut it short;
* `Binary64.ofDecimal?_isSome` — a whole number of 64 bits is in range;
* `Binary64.round?_scaled`, `Binary64.ofDecimal?_shift` — the rounding depends on the ratio alone;
* `Binary64.ofDecimal?_shortest` — the shortest digits read back.
-/

namespace WikibaseQuery

/-! ## Rounding to a whole number -/

/-- A common factor does not matter. -/
theorem roundHalfEven_scaled {k : Nat} (hk : 0 < k) (a b : Nat) :
    roundHalfEven (a * k) (b * k) = roundHalfEven a b := by
  have hless : 2 * (a % b * k) < b * k ↔ 2 * (a % b) < b := by
    rw [← Nat.mul_assoc]
    exact Nat.mul_lt_mul_right hk
  have hhalf : 2 * (a % b * k) = b * k ↔ 2 * (a % b) = b := by
    rw [← Nat.mul_assoc]
    exact Nat.mul_left_inj hk.ne'
  simp only [roundHalfEven, Nat.mul_div_mul_right _ _ hk, Nat.mul_mod_mul_right, hless, hhalf]

/-- A whole number of denominators is not rounded. -/
theorem roundHalfEven_whole {k : Nat} (hk : 0 < k) (a : Nat) : roundHalfEven (a * k) k = a := by
  simp [roundHalfEven, hk]

/-- Less than a half is rounded to nothing. -/
theorem roundHalfEven_small {a b : Nat} (h : 2 * a < b) : roundHalfEven a b = 0 := by
  have hab : a < b := by omega
  simp [roundHalfEven, Nat.div_eq_of_lt hab, Nat.mod_eq_of_lt hab, h]

/-- Rounding moves to one of the two neighbours. -/
theorem roundHalfEven_bounds (a b : Nat) :
    a / b ≤ roundHalfEven a b ∧ roundHalfEven a b ≤ a / b + 1 := by
  unfold roundHalfEven
  dsimp only
  split <;> omega

namespace Binary64

variable {negative : Bool} {a b a' b' k : Nat} {d : Decimal}

/-! ## Rounding to a number of the format -/

theorem round?_scaled (hk : 0 < k) : round? negative (a * k) (b * k) = round? negative a b := by
  have hstep (s : Nat) : roundHalfEven (a * k) (b * k * s) = roundHalfEven a (b * s) := by
    rw [Nat.mul_right_comm, roundHalfEven_scaled hk]
  simp only [round?, Nat.mul_div_mul_right _ _ hk, hstep]

/-- Equal ratios are rounded alike. -/
theorem round?_ratio (hb : 0 < b) (hb' : 0 < b') (h : a * b' = a' * b) :
    round? negative a b = round? negative a' b' :=
  calc round? negative a b
      = round? negative (a * b') (b * b') := (round?_scaled hb').symm
    _ = round? negative (a' * b) (b' * b) := by rw [h, Nat.mul_comm b]
    _ = round? negative a' b' := round?_scaled hb

/-- Nothing, and what is less than half a unit, is rounded to zero. -/
theorem round?_small (h : 2 * a < b) : round? negative a b = some (zero negative) := by
  have hab : a < b := by omega
  have hround : roundHalfEven a (b * Nat.pow 2 (0 - 52)) = 0 := by
    rw [show Nat.pow 2 (0 - 52) = 1 from rfl, Nat.mul_one]
    exact roundHalfEven_small h
  rw [round?, Nat.div_eq_of_lt hab, Nat.log2_zero, hround]
  rfl

/-- What is beyond the largest scale has no number. -/
theorem round?_large {n : Nat} (hn : 2098 ≤ n) (h : 2 ^ n ≤ a) : round? negative a 1 = none := by
  have hlog : n ≤ a.log2 := (Nat.le_log2 (Nat.lt_of_lt_of_le (Nat.two_pow_pos n) h).ne').mpr h
  have hscale : ¬ a.log2 - 52 ≤ 2045 := by omega
  have hnext : ¬ a.log2 - 52 + 1 ≤ 2045 := by omega
  rw [round?, Nat.div_one]
  simp only [ofParts?, hscale, hnext, false_and, and_false, dite_false, ite_self]

/-- What stays below the largest scale has a number. -/
theorem round?_isSome {n : Nat} (hn : n ≤ 2097) (h : a < 2 ^ n) :
    (round? negative a 1).isSome = true := by
  obtain ⟨hlow, hhigh⟩ := roundHalfEven_bounds a (1 * Nat.pow 2 (a.log2 - 52))
  have hlog : a.log2 < 2097 := by
    by_cases h0 : a = 0
    · rw [h0]
      decide
    · exact Nat.lt_of_lt_of_le ((Nat.log2_lt h0).mpr h) hn
  have hquotient : a / (1 * Nat.pow 2 (a.log2 - 52)) < Nat.pow 2 53 := by
    rw [Nat.one_mul]
    refine Nat.div_lt_of_lt_mul ?_
    have hpow : a < 2 ^ (a.log2 - 52 + 53) :=
      Nat.lt_of_lt_of_le Nat.lt_log2_self (Nat.pow_le_pow_right (by decide) (by omega))
    rwa [Nat.pow_add] at hpow
  have hcanonical : a.log2 - 52 = 0 ∨
      Nat.pow 2 52 ≤ roundHalfEven a (1 * Nat.pow 2 (a.log2 - 52)) := by
    by_cases hscale : a.log2 - 52 = 0
    · exact .inl hscale
    · refine .inr (Nat.le_trans ?_ hlow)
      have h0 : a ≠ 0 := by
        rintro rfl
        exact hscale (by decide)
      have hpow : 2 ^ (52 + (a.log2 - 52)) ≤ a := by
        rw [show 52 + (a.log2 - 52) = a.log2 by omega]
        exact Nat.log2_self_le h0
      rw [Nat.one_mul]
      rw [Nat.pow_add] at hpow
      exact (Nat.le_div_iff_mul_le (Nat.two_pow_pos _)).mpr hpow
  rw [round?, Nat.div_one]
  split_ifs with hcarry
  · rw [ofParts?, dif_pos ⟨by decide, by omega, .inr (Nat.le_refl _)⟩]
    rfl
  · rw [ofParts?, dif_pos ⟨by omega, by omega, hcanonical⟩]
    rfl

/-- A number is the nearest one to itself. -/
theorem round?_units (x : Binary64) : round? x.negative x.units 1 = some x := by
  have hscale : x.units.log2 - 52 = x.scale := by
    obtain hzero | hfull := x.canonical
    · have hlt : x.units < 2 ^ 53 := by
        rw [units, hzero]
        simpa using x.coefficient_lt
      have : x.units.log2 < 53 := by
        by_cases h0 : x.units = 0
        · rw [h0]; decide
        · exact (Nat.log2_lt h0).mpr hlt
      omega
    · have hlow : 2 ^ (52 + x.scale) ≤ x.units := by
        rw [Nat.pow_add]
        exact Nat.mul_le_mul_right _ hfull
      have hhigh : x.units < 2 ^ (53 + x.scale) := by
        rw [Nat.pow_add]
        exact Nat.mul_lt_mul_of_pos_right x.coefficient_lt (Nat.two_pow_pos _)
      have h0 : x.units ≠ 0 := by
        have := Nat.two_pow_pos (52 + x.scale)
        omega
      have h1 := (Nat.le_log2 h0).mpr hlow
      have h2 := (Nat.log2_lt h0).mpr hhigh
      omega
  have hround : roundHalfEven x.units (1 * Nat.pow 2 x.scale) = x.coefficient := by
    rw [Nat.one_mul]
    exact roundHalfEven_whole (Nat.two_pow_pos _) _
  rw [round?, Nat.div_one, hscale, hround, if_neg x.coefficient_lt.ne, ofParts?_self]

/-! ## Reading a decimal -/

/-- **The two tests of size before the rounding** give what the rounding would give. -/
theorem ofDecimal?_eq_round? (negative : Bool) (d : Decimal) :
    ofDecimal? negative d = round? negative (fraction d).1 (fraction d).2 := by
  have hden : 0 < (fraction d).2 := Nat.pow_pos (by decide)
  unfold ofDecimal?
  split_ifs with hdigits hbig htiny
  · have hnone : (fraction d).1 = 0 := by
      rw [fraction, hdigits]
      generalize Nat.pow 2 1074 = unit
      rw [Nat.zero_mul, Nat.zero_mul]
    rw [hnone]
    exact (round?_small hden).symm
  · have hone : (fraction d).2 = 1 := by
      rw [fraction, show (-d.exponent).toNat = 0 by omega]
    have hten : 2 ^ 1033 ≤ Nat.pow 10 d.exponent.toNat :=
      calc 2 ^ 1033 ≤ 10 ^ 311 := by decide +kernel
        _ ≤ 10 ^ d.exponent.toNat := Nat.pow_le_pow_right (by decide) (by omega)
    have hbits : 2098 ≤ 1074 + 1033 := by decide
    rw [hone, fraction]
    -- the powers are compared by their exponents, and never computed
    generalize 1074 = k at hbits ⊢
    generalize 1033 = m at hbits hten
    refine (round?_large hbits ?_).symm
    rw [Nat.pow_add]
    exact Nat.mul_le_mul (Nat.le_mul_of_pos_left _ (Nat.pos_of_ne_zero hdigits)) hten
  · refine (round?_small ?_).symm
    have hwhole : (fraction d).1 = d.digits * Nat.pow 2 1074 := by
      rw [fraction, show d.exponent.toNat = 0 by omega]
      generalize Nat.pow 2 1074 = unit
      exact Nat.mul_one _
    have hlt : d.digits < 10 ^ (d.digits.log2 / 3 + 1) :=
      calc d.digits < 2 ^ (d.digits.log2 + 1) := Nat.lt_log2_self
        _ ≤ 2 ^ (3 * (d.digits.log2 / 3 + 1)) := Nat.pow_le_pow_right (by decide) (by omega)
        _ = 8 ^ (d.digits.log2 / 3 + 1) := Nat.pow_mul 2 3 _
        _ ≤ 10 ^ (d.digits.log2 / 3 + 1) := Nat.pow_le_pow_left (by decide) _
    have hunit : Nat.pow 2 1074 * 2 ≤ 10 ^ 331 := by decide +kernel
    have hpower : d.digits.log2 / 3 + 1 + 331 ≤ (-d.exponent).toNat := by omega
    rw [hwhole]
    generalize Nat.pow 2 1074 = unit at hunit ⊢
    generalize 331 = m at hunit hpower
    calc 2 * (d.digits * unit) = d.digits * (unit * 2) := by ring
      _ < 10 ^ (d.digits.log2 / 3 + 1) * 10 ^ m :=
        Nat.mul_lt_mul_of_lt_of_le hlt hunit (Nat.pow_pos (by decide))
      _ = 10 ^ (d.digits.log2 / 3 + 1 + m) := (Nat.pow_add ..).symm
      _ ≤ Nat.pow 10 (-d.exponent).toNat := Nat.pow_le_pow_right (by decide) hpower
  · rfl

/-- A whole number of 64 bits is not too large for the format. -/
theorem ofDecimal?_isSome (negative : Bool) {n : Nat} (h : n < 2 ^ 64) :
    (ofDecimal? negative ⟨n, 0⟩).isSome = true := by
  have hwhole : fraction ⟨n, 0⟩ = (n * Nat.pow 2 1074, 1) := by
    rw [fraction]
    generalize Nat.pow 2 1074 = unit
    exact congrArg (·, 1) (Nat.mul_one (n * unit))
  have hbits : 64 + 1074 ≤ 2097 := by decide
  rw [ofDecimal?_eq_round?, hwhole]
  generalize 1074 = k at hbits ⊢
  refine round?_isSome hbits ?_
  rw [Nat.pow_add]
  exact Nat.mul_lt_mul_of_pos_right h (Nat.two_pow_pos _)

/-- Zeros at the end of the digits stand for the same number as a larger exponent. -/
theorem ofDecimal?_shift (negative : Bool) (n k : Nat) (e : Int) :
    ofDecimal? negative ⟨n * 10 ^ k, e - k⟩ = ofDecimal? negative ⟨n, e⟩ := by
  rw [ofDecimal?_eq_round?, ofDecimal?_eq_round?]
  refine round?_ratio (Nat.pow_pos (by decide)) (Nat.pow_pos (by decide)) ?_
  have hpowers : k + ((e - k).toNat + (-e).toNat) = e.toNat + (-(e - k)).toNat := by omega
  have hten : 10 ^ k * (Nat.pow 10 (e - k).toNat * Nat.pow 10 (-e).toNat) =
      Nat.pow 10 e.toNat * Nat.pow 10 (-(e - k)).toNat := by
    simp only [Nat.pow_eq, ← Nat.pow_add, hpowers]
  rw [fraction, fraction]
  generalize Nat.pow 2 1074 = unit
  linear_combination n * unit * hten

/-! ## The shortest digits -/

theorem ofDecimal?_dropZeros (negative : Bool) (count : Nat) (d : Decimal) :
    ofDecimal? negative (d.dropZeros count) = ofDecimal? negative d := by
  induction count generalizing d with
  | zero => rfl
  | succ count ih =>
    rw [Decimal.dropZeros]
    split_ifs with hzero
    · have hd : d = ⟨d.digits / 10 * 10 ^ 1, d.exponent + 1 - (1 : Nat)⟩ := by
        cases d
        simp at hzero ⊢
        omega
      rw [ih, ← ofDecimal?_shift negative (d.digits / 10) 1, ← hd]
    · rfl

theorem ofDecimal?_reduce (negative : Bool) (d : Decimal) :
    ofDecimal? negative d.reduce = ofDecimal? negative d := by
  rw [Decimal.reduce]
  split_ifs
  · rfl
  · exact ofDecimal?_dropZeros ..

/-- What is found on a grid reads back. -/
theorem readsBack_onGrid? {tie : Tie} {x : Binary64} {power : Int}
    (h : x.onGrid? tie power = some d) : x.readsBack d = true := by
  unfold onGrid? at h
  dsimp only at h
  split at h
  · rename_i hbelow habove
    split_ifs at h
    all_goals
      cases h
      assumption
  · cases h
    assumption
  · cases h
    assumption
  · cases h

/-- All digits of a number read back. -/
theorem ofDecimal?_exact (x : Binary64) : ofDecimal? x.negative x.exact = some x := by
  have hten (k : Nat) : Nat.pow 5 k * Nat.pow 2 k = Nat.pow 10 k := (Nat.mul_pow 5 2 k).symm
  rw [ofDecimal?_eq_round?, ← round?_units x]
  refine round?_ratio (Nat.pow_pos (by decide)) Nat.one_pos ?_
  rw [fraction, exact, show (-1074 : Int).toNat = 0 from rfl,
    show (- -1074 : Int).toNat = 1074 from rfl]
  generalize 1074 = k
  rw [Nat.mul_assoc x.units, hten, Nat.mul_one]
  exact Nat.mul_one _

/-- **The shortest digits of a number read back.** -/
theorem ofDecimal?_shortest (tie : Tie) (x : Binary64) :
    ofDecimal? x.negative (x.shortest tie) = some x := by
  rw [shortest]
  split_ifs with hzero
  · have hx := round?_units x
    rw [hzero] at hx
    rw [ofDecimal?_eq_round?, fraction, Nat.zero_mul, Nat.zero_mul]
    exact hx
  · rw [ofDecimal?_reduce]
    cases hgrids : List.findSome? (x.onGrid? tie)
        ((List.range 17).map fun (n : Nat) => x.leadingPower - n) with
    | none => exact ofDecimal?_exact x
    | some d =>
      obtain ⟨_, -, hd⟩ := List.exists_of_findSome?_eq_some hgrids
      simpa [readsBack] using readsBack_onGrid? hd

end Binary64

end WikibaseQuery

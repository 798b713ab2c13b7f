import ChatPlan.Number.Decimal
import Mathlib.Algebra.Ring.Nat
import Mathlib.Data.List.DropRight

/-
Digits and rounding. The digits of a number say which number it is, the first of them is not zero,
and zeros behind them multiply it by ten. Rounding depends on the value of a quotient alone, so
zeros may move between the digits of a decimal and its exponent. A double written out in full needs
no rounding, hence the shortest digits that the printer finds always read back as the double.
-/
namespace ChatPlan

/-! ## Digits -/

theorem ofDigits_eq (ds : List Char) : ofDigits ds = Nat.ofDigitChars 10 ds 0 := rfl

@[simp] theorem ofDigits_digits (n : Nat) : ofDigits (digits n) = n := Nat.ofDigitChars_ten_toDigits

theorem digits_inj {n m : Nat} (h : digits n = digits m) : n = m := by
  rw [← ofDigits_digits n, h, ofDigits_digits]

theorem ofDigits_append (xs ys : List Char) :
    ofDigits (xs ++ ys) = ofDigits xs * 10 ^ ys.length + ofDigits ys := by
  rw [ofDigits_eq, Nat.ofDigitChars_append, Nat.ofDigitChars_eq_ofDigitChars_zero, Nat.mul_comm]
  rfl

@[simp] theorem ofDigits_zeros (k : Nat) : ofDigits (List.replicate k '0') = 0 := by
  rw [ofDigits_eq, Nat.ofDigitChars_replicate_zero, Nat.mul_zero]

theorem ofDigits_zeros_append (k : Nat) (ds : List Char) :
    ofDigits (List.replicate k '0' ++ ds) = ofDigits ds := by
  rw [ofDigits_append, ofDigits_zeros, Nat.zero_mul, Nat.zero_add]

theorem ofDigits_append_zeros (ds : List Char) (k : Nat) :
    ofDigits (ds ++ List.replicate k '0') = ofDigits ds * 10 ^ k := by
  rw [ofDigits_append, ofDigits_zeros, List.length_replicate, Nat.add_zero]

theorem isDigit_of_mem_digits {n : Nat} {c : Char} (h : c ∈ digits n) : c.isDigit = true :=
  Nat.isDigit_of_mem_toDigits (by decide) (by decide) h

theorem digits_ne_nil (n : Nat) : digits n ≠ [] := Nat.toDigits_ne_nil

theorem head_digits_ne_zero {n : Nat} (hn : n ≠ 0) : (digits n).head? ≠ some '0' := by
  induction n using Nat.strongRecOn with
  | ind n ih =>
    rcases Nat.lt_or_ge n 10 with hlt | hge
    · rw [digits, Nat.toDigits_of_lt_base hlt]
      simpa using hn
    · rw [digits, Nat.toDigits_of_base_le (by decide) hge,
        List.head?_append_of_ne_nil _ Nat.toDigits_ne_nil]
      exact ih (n / 10) (by omega) (by omega)

theorem digits_mul_pow {n : Nat} (hn : 0 < n) (k : Nat) :
    digits (n * 10 ^ k) = digits n ++ List.replicate k '0' := by
  induction k with
  | zero => simp
  | succ k ih =>
    have hpos : 0 < n * 10 ^ k := Nat.mul_pos hn (Nat.pow_pos (by decide))
    have hlast : digits (10 * (n * 10 ^ k) + 0) = digits (n * 10 ^ k) ++ ['0'] :=
      (Nat.toDigits_append_toDigits (by decide) hpos (by decide)).symm
    rw [Nat.add_zero, Nat.mul_comm] at hlast
    rw [List.replicate_succ', ← List.append_assoc, ← ih, ← hlast, Nat.pow_succ, Nat.mul_assoc]

theorem exists_rdropWhile_append_zeros (ds : List Char) :
    ∃ k, ds = ds.rdropWhile (· == '0') ++ List.replicate k '0' := by
  induction ds using List.reverseRecOn with
  | nil => exact ⟨0, rfl⟩
  | append_singleton ds c ih =>
    by_cases hc : (c == '0') = true
    · obtain ⟨k, hk⟩ := ih
      refine ⟨k + 1, ?_⟩
      rw [List.rdropWhile_concat_pos (· == '0') _ _ hc, List.replicate_succ', ← List.append_assoc,
        ← hk, beq_iff_eq.1 hc]
    · refine ⟨0, ?_⟩
      rw [List.rdropWhile_concat_neg (· == '0') _ _ hc, List.replicate_zero, List.append_nil]

/-! ## Rounding a quotient -/

theorem roundDiv_mul {k : Nat} (hk : 0 < k) (n d : Nat) :
    roundDiv (n * k) (d * k) = roundDiv n d := by
  have hlt (a b : Nat) : a * k < b * k ↔ a < b := Nat.mul_lt_mul_right hk
  simp only [roundDiv, Nat.mul_div_mul_right _ _ hk, Nat.mul_mod_mul_right, ← Nat.mul_assoc, hlt]

theorem roundDiv_mul_self {d : Nat} (hd : 0 < d) (n : Nat) : roundDiv (n * d) d = n := by
  simp [roundDiv, Nat.mul_div_cancel _ hd, hd]

namespace Double

theorem ofUnits_mul {k : Nat} (hk : 0 < k) (b : Bool) (n d : Nat) :
    ofUnits b (n * k) (d * k) = ofUnits b n d := by
  simp only [ofUnits, Nat.mul_div_mul_right _ _ hk, Nat.mul_right_comm d k, roundDiv_mul hk]

theorem ofRatio_mul {k : Nat} (hk : 0 < k) (b : Bool) (n d : Nat) :
    ofRatio b (n * k) (d * k) = ofRatio b n d := by
  rw [ofRatio, ofRatio, Nat.mul_right_comm, ofUnits_mul hk]

/-- A whole number of units that a double has is rounded to that double. -/
theorem ofUnits_units (x : FiniteDouble) : ofUnits x.negative x.units 1 = .finite x := by
  have hpow : 0 < Nat.pow 2 x.shift := Nat.pow_pos (by decide)
  -- either the shift is zero, or the leading bit is set and says how far to shift
  have hshift : Nat.log2 x.units + 1 - 53 = x.shift := by
    rcases x.normal with h0 | hnormal
    · have hlt : x.units < 2 ^ 53 := by simpa [FiniteDouble.units, h0] using x.mantissa_lt
      by_cases hzero : x.units = 0
      · simp [hzero, h0]
      · have := (Nat.log2_lt hzero).2 hlt
        omega
    · have hlow : 2 ^ (52 + x.shift) ≤ x.units := by
        rw [Nat.pow_add]
        exact Nat.mul_le_mul_right _ hnormal
      have hhigh : x.units < 2 ^ (53 + x.shift) := by
        rw [Nat.pow_add]
        exact (Nat.mul_lt_mul_right hpow).2 x.mantissa_lt
      have hne : x.units ≠ 0 := fun h => by
        rw [h] at hlow
        exact absurd hlow (Nat.not_le.2 (Nat.pow_pos (by decide)))
      have := (Nat.le_log2 hne).2 hlow
      have := (Nat.log2_lt hne).2 hhigh
      omega
  have hround : roundDiv x.units (1 * Nat.pow 2 x.shift) = x.mantissa := by
    rw [Nat.one_mul, FiniteDouble.units, roundDiv_mul_self hpow]
  simp only [ofUnits, Nat.div_one, hshift, hround]
  rw [if_pos x.mantissa_lt, ofParts, dif_pos ⟨x.mantissa_lt, x.normal, x.shift_le⟩]

end Double

/-! ## Decimals -/

namespace Decimal

/-- Zeros may move from the digits into the exponent. -/
theorem toDouble_mul_pow (b : Bool) (n k : Nat) (e : Int) :
    toDouble ⟨b, n * 10 ^ k, e⟩ = toDouble ⟨b, n, e + k⟩ := by
  have hpow (j : Nat) : 0 < 10 ^ j := Nat.pow_pos (by decide)
  by_cases hn : n = 0
  · simp [toDouble, hn]
  have hnk : n * 10 ^ k ≠ 0 := Nat.mul_ne_zero hn (Nat.pos_iff_ne_zero.1 (hpow k))
  have htop : ((digits (n * 10 ^ k)).length : Int) + e = (digits n).length + (e + k) := by
    rw [digits_mul_pow (by omega), List.length_append, List.length_replicate]
    omega
  have hratio : (if 0 ≤ e then Double.ofRatio b (n * 10 ^ k * Nat.pow 10 e.toNat) 1
      else Double.ofRatio b (n * 10 ^ k) (Nat.pow 10 (-e).toNat)) =
      if 0 ≤ e + k then Double.ofRatio b (n * Nat.pow 10 (e + k).toNat) 1
      else Double.ofRatio b n (Nat.pow 10 (-(e + k)).toNat) := by
    split
    · rename_i he
      rw [if_pos (by omega), show (e + k).toNat = k + e.toNat by omega, Nat.pow_eq, Nat.pow_eq,
        Nat.pow_add, Nat.mul_assoc]
    · rename_i he
      split
      · -- the power of ten cancels the whole denominator
        have hk : k = (e + k).toNat + (-e).toNat := by omega
        have := Double.ofRatio_mul (hpow (-e).toNat) b (n * 10 ^ (e + k).toNat) 1
        rwa [Nat.mul_assoc, ← Nat.pow_add, ← hk, Nat.one_mul] at this
      · have hk : (-e).toNat = (-(e + k)).toNat + k := by omega
        have := Double.ofRatio_mul (hpow k) b n (10 ^ (-(e + k)).toNat)
        rwa [← Nat.pow_add, ← hk] at this
  simp only [toDouble, hn, hnk, htop, hratio]

theorem toDouble_fraction {n k : Nat} (hn : n ≠ 0) (hk : 0 < k)
    (hlow : k ≤ (digits n).length + 330) (hhigh : (digits n).length ≤ k + 310) (b : Bool) :
    toDouble ⟨b, n, -k⟩ = Double.ofRatio b n (Nat.pow 10 k) := by
  rw [toDouble, if_neg hn]
  dsimp only
  rw [if_neg (by omega), if_neg (by omega), if_neg (by omega), Int.neg_neg, Int.toNat_natCast]

end Decimal

namespace FiniteDouble

theorem units_lt {x : FiniteDouble} {s : Nat} (h : x.shift ≤ s) : x.units < 2 ^ (53 + s) := by
  have hlt : x.units < 2 ^ (53 + x.shift) := by
    rw [Nat.pow_add]
    exact (Nat.mul_lt_mul_right (Nat.pow_pos (by decide))).2 x.mantissa_lt
  exact Nat.lt_of_lt_of_le hlt (Nat.pow_le_pow_right (by decide) (Nat.add_le_add_left h _))

theorem units_ne_zero {x : FiniteDouble} (h : x.isZero = false) : x.units ≠ 0 := by
  have hm : x.mantissa ≠ 0 := by simpa [isZero] using h
  exact Nat.mul_ne_zero hm (Nat.pos_iff_ne_zero.1 (Nat.pow_pos (by decide)))

theorem eq_zero {x : FiniteDouble} (h : x.isZero = true) : x = zero x.negative := by
  obtain ⟨b, m, s, hlt, hnormal, hle⟩ := x
  have hm : m = 0 := by simpa [isZero] using h
  subst hm
  have hs : s = 0 := by
    rcases hnormal with hs | hm
    · exact hs
    · exact absurd hm (by decide)
  subst hs
  rfl

section Exact

-- the number of binary places of a unit, kept as a variable so that no power of it is computed
variable {x : FiniteDouble} {k : Nat} (hk : unit = Nat.pow 2 k)

/-- How many digits the units of a double have, written out with so many places. -/
theorem length_digits_units (h : x.isZero = false) {s a b : Nat} (hs : x.shift ≤ s)
    (hlow : 10 ^ (a + 1) ≤ Nat.pow 5 k) (hhigh : 2 ^ (53 + s) * Nat.pow 5 k ≤ 10 ^ (b + 1)) :
    a + 1 < (digits (x.units * Nat.pow 5 k)).length ∧
      (digits (x.units * Nat.pow 5 k)).length ≤ b + 1 := by
  constructor
  · rw [← Nat.not_le, digits, Nat.length_toDigits_le_iff (by decide) a.succ_pos, Nat.not_lt]
    exact Nat.le_trans hlow (Nat.le_mul_of_pos_left _ (Nat.pos_of_ne_zero (units_ne_zero h)))
  · rw [digits, Nat.length_toDigits_le_iff (by decide) b.succ_pos]
    exact Nat.lt_of_lt_of_le
      ((Nat.mul_lt_mul_right (Nat.pow_pos (by decide))).2 (units_lt hs)) hhigh

include hk in
theorem ofRatio_units :
    Double.ofRatio x.negative (x.units * Nat.pow 5 k) (Nat.pow 10 k) = .finite x := by
  have hten : Nat.pow 5 k * Nat.pow 2 k = Nat.pow 10 k := (Nat.mul_pow 5 2 k).symm
  have hpos : 0 < Nat.pow 10 k := Nat.pow_pos (by decide)
  have hone := Double.ofUnits_mul hpos x.negative x.units 1
  rw [Nat.one_mul] at hone
  rw [Double.ofRatio, hk, Nat.mul_assoc, hten, hone, Double.ofUnits_units]

include hk in
theorem toDouble_units (h : x.isZero = false) {s a b : Nat} (hs : x.shift ≤ s)
    (hlow : 10 ^ (a + 1) ≤ Nat.pow 5 k) (hhigh : 2 ^ (53 + s) * Nat.pow 5 k ≤ 10 ^ (b + 1))
    (ha : k ≤ a + 331) (hb : b < k + 310) (hpos : 0 < k) :
    Decimal.toDouble ⟨x.negative, x.units * Nat.pow 5 k, -k⟩ = .finite x := by
  have hne : x.units * Nat.pow 5 k ≠ 0 :=
    Nat.mul_ne_zero (units_ne_zero h) (Nat.pos_iff_ne_zero.1 (Nat.pow_pos (by decide)))
  obtain ⟨hleast, hmost⟩ := length_digits_units h hs hlow hhigh
  rw [Decimal.toDouble_fraction hne hpos (by omega) (by omega), ofRatio_units hk]

end Exact

/-- Written out in full, a double reads back as itself. -/
theorem toDouble_exactDecimal (x : FiniteDouble) : x.exactDecimal.toDouble = .finite x := by
  rw [exactDecimal]
  cases h : x.isZero with
  | true =>
    have hunits : x.units = 0 := by simp [units, beq_iff_eq.1 h]
    have hzero (m : Nat) : x.units * m = 0 := by rw [hunits, Nat.zero_mul]
    rw [Decimal.toDouble, if_pos (hzero _), ← eq_zero h]
  | false =>
    exact toDouble_units (k := 1074) (a := 743) (b := 1383) rfl h x.shift_le
      (by decide +kernel) (by decide +kernel) (by decide) (by decide) (by decide)

theorem toDouble_readBack {tie : DecimalTie} {x : FiniteDouble} {n : Nat} {d : Decimal}
    (h : x.readBack tie n = some d) : d.toDouble = .finite x ∧ d.negative = x.negative := by
  rw [readBack] at h
  have hfound := List.find?_some h
  obtain ⟨s, -, rfl⟩ := List.mem_map.1 (List.mem_of_find?_eq_some h)
  exact ⟨beq_iff_eq.1 hfound, rfl⟩

/-- The shortest digits of a double read back as the double. -/
theorem toDouble_shortest (tie : DecimalTie) (x : FiniteDouble) :
    (x.shortest tie).toDouble = .finite x ∧ (x.shortest tie).negative = x.negative := by
  rw [shortest]
  cases hs : (List.range 17).findSome? fun n => x.readBack tie (n + 1) with
  | none =>
    rw [Option.getD_none]
    exact ⟨x.toDouble_exactDecimal, rfl⟩
  | some d =>
    obtain ⟨n, -, hn⟩ := List.exists_of_findSome?_eq_some hs
    exact toDouble_readBack hn

/-- Significant digits of a double and the place of the point, as they are laid out. -/
structure IsLayout (x : FiniteDouble) (ds : List Char) (place : Int) : Prop where
  ne_nil : ds ≠ []
  isDigit : ∀ c ∈ ds, c.isDigit = true
  head : ds = ['0'] ∧ place = 1 ∨ ds.head? ≠ some '0'
  toDouble : Decimal.toDouble ⟨x.negative, ofDigits ds, place - ds.length⟩ = .finite x

theorem isLayout_zero {x : FiniteDouble} (h : x.isZero = true) : x.IsLayout ['0'] 1 where
  ne_nil := by decide
  isDigit := fun c hc => by
    rw [List.mem_singleton.1 hc]
    decide
  head := .inl ⟨rfl, rfl⟩
  toDouble := by
    have hvalue : ofDigits ['0'] = 0 := by decide
    rw [hvalue, Decimal.toDouble, if_pos rfl, ← eq_zero h]

/-- The digits of a decimal that reads back as the double, without the zeros at their end. -/
theorem isLayout_digits {x : FiniteDouble} (h : x.isZero = false) {d : Decimal}
    (hdouble : d.toDouble = .finite x) (hsign : d.negative = x.negative) :
    x.IsLayout ((digits d.significand).rdropWhile (· == '0'))
      ((digits d.significand).length + d.exponent) := by
  obtain ⟨k, hk⟩ := exists_rdropWhile_append_zeros (digits d.significand)
  generalize (digits d.significand).rdropWhile (· == '0') = ds at hk
  have hvalue : ofDigits ds * 10 ^ k = d.significand := by
    rw [← ofDigits_append_zeros, ← hk, ofDigits_digits]
  have hsignificand : d.significand ≠ 0 := by
    intro h0
    rw [Decimal.toDouble, if_pos h0, Double.finite.injEq] at hdouble
    rw [← hdouble] at h
    cases h
  have hne : ds ≠ [] := by
    intro hnil
    subst hnil
    exact hsignificand (by rw [← hvalue]; exact Nat.zero_mul _)
  refine ⟨hne, fun c hc => ?_, .inr ?_, ?_⟩
  · have hmem : c ∈ digits d.significand := by
      rw [hk]
      exact List.mem_append_left _ hc
    exact isDigit_of_mem_digits hmem
  · have hhead := head_digits_ne_zero hsignificand
    rwa [hk, List.head?_append_of_ne_nil _ hne] at hhead
  · have hlength := congrArg List.length hk
    rw [List.length_append, List.length_replicate] at hlength
    have hplace : ((digits d.significand).length : Int) + d.exponent - ds.length = d.exponent + k := by
      omega
    rw [hplace, ← Decimal.toDouble_mul_pow, hvalue, ← hsign]
    exact hdouble

theorem isLayout_shortestDigits (tie : DecimalTie) (x : FiniteDouble) :
    x.IsLayout (x.shortestDigits tie).1 (x.shortestDigits tie).2 := by
  rw [shortestDigits]
  cases h : x.isZero with
  | true => exact isLayout_zero h
  | false =>
    obtain ⟨hdouble, hsign⟩ := toDouble_shortest tie x
    exact isLayout_digits h hdouble hsign

end FiniteDouble

end ChatPlan

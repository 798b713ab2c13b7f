import ChatPlan.Proofs.Number.Rounding
import Mathlib.Algebra.Order.Field.Basic
import Mathlib.Algebra.Order.Field.Rat
import Mathlib.Data.Nat.Cast.Order.Field
import Mathlib.Tactic.Linarith

/-
What rounding changes. The double of a quotient between zero and one, and the difference of doubles
that are at most one apart, lie between zero and one as well, and are off by no more than half of
the step from one to the next double (`exists_ofRatio`, `exists_sub`).
-/
namespace ChatPlan

theorem roundDiv_cases (n d : Nat) : roundDiv n d = n / d ∧ 2 * (n % d) ≤ d ∨
    roundDiv n d = n / d + 1 ∧ d ≤ 2 * (n % d) := by
  simp only [roundDiv]
  split
  · omega
  · split
    · omega
    · split <;> omega

theorem roundDiv_error {d : Nat} (hd : 0 < d) (n : Nat) :
    2 * (roundDiv n d * d) ≤ 2 * n + d ∧ 2 * n ≤ 2 * (roundDiv n d * d) + d := by
  have hn : n / d * d + n % d = n := Nat.div_add_mod' n d
  have hr : n % d < d := Nat.mod_lt n hd
  rcases roundDiv_cases n d with ⟨hdown, hhalf⟩ | ⟨hup, hhalf⟩
  · rw [hdown]
    omega
  · have hmul : (n / d + 1) * d = n / d * d + d := Nat.succ_mul _ d
    rw [hup, hmul]
    omega

theorem roundDiv_le {n m d : Nat} (hd : 0 < d) (h : n ≤ m * d) : roundDiv n d ≤ m := by
  rcases roundDiv_cases n d with ⟨hdown, -⟩ | ⟨hup, hhalf⟩
  · rw [hdown]
    exact Nat.div_le_of_le_mul (by rwa [Nat.mul_comm])
  · rw [hup]
    have hn : n / d * d + n % d = n := Nat.div_add_mod' n d
    have hlt : n / d * d < m * d := by omega
    exact Nat.lt_of_mul_lt_mul_right hlt

namespace FiniteDouble

/-- The value of the double. -/
def toRat (x : FiniteDouble) : ℚ := (x.value : ℚ) / unit

/-- One half of the step from one to the next double. -/
def roundoff : ℚ := 1 / 2 ^ 53

theorem roundoff_pos : 0 < roundoff := by
  rw [roundoff]
  exact div_pos one_pos (pow_pos two_pos 53)

/-- The exponent is named, so that the power is never computed. -/
theorem exists_unit_eq : ∃ s ≤ 2044, unit = 2 ^ (52 + s) := by
  have hpow : ∃ k, unit = Nat.pow 2 k ∧ 52 ≤ k ∧ k ≤ 2096 := by
    unfold unit
    exact ⟨_, rfl, by decide, by decide⟩
  obtain ⟨k, hunit, hlow, hhigh⟩ := hpow
  obtain ⟨s, rfl⟩ := Nat.exists_eq_add_of_le hlow
  exact ⟨s, by omega, hunit⟩

theorem unit_pos : (0 : ℚ) < unit := by
  obtain ⟨s, -, hunit⟩ := exists_unit_eq
  rw [hunit]
  exact Nat.cast_pos.2 (Nat.pow_pos (by decide))

theorem toRat_of_nonneg {x : FiniteDouble} (h : x.negative = false) : x.toRat = x.units / unit := by
  rw [toRat, value, h, if_neg Bool.false_ne_true, Int.cast_natCast]

theorem toRat_nonneg {x : FiniteDouble} (h : x.negative = false) : 0 ≤ x.toRat := by
  rw [toRat_of_nonneg h]
  exact div_nonneg (Nat.cast_nonneg _) unit_pos.le

def one : FiniteDouble := ⟨false, Nat.pow 2 52, 1022, by decide, .inr (Nat.le_refl _), by decide⟩

theorem units_one : one.units = unit := by
  have hpow {a b c : Nat} (h : a + b = c) : Nat.pow 2 a * Nat.pow 2 b = Nat.pow 2 c := by
    rw [← h]
    exact (Nat.pow_add 2 a b).symm
  unfold units one unit
  apply hpow
  rfl

theorem toRat_one : one.toRat = 1 := by
  rw [toRat_of_nonneg rfl, units_one, div_self unit_pos.ne']

end FiniteDouble

namespace Double

open FiniteDouble

variable {x y : FiniteDouble} {negative : Bool} {num den s : Nat}

theorem le_finite_iff : Double.le (.finite x) (.finite y) = true ↔ x.toRat ≤ y.toRat := by
  rw [toRat, toRat, div_le_div_iff_of_pos_right unit_pos, Int.cast_le, le_iff_lt_or_eq]
  simp [Double.le, Double.lt, Double.same, compare?, rank, compare_lt_iff_lt]

theorem lead_bounds {q k : Nat} (hk : q.log2 + 1 - 53 = k) :
    q < 2 ^ (53 + k) ∧ (k = 0 ∨ 2 ^ (52 + k) ≤ q) := by
  constructor
  · exact Nat.lt_log2_self.trans_le (Nat.pow_le_pow_right (by decide) (by omega))
  · rcases Nat.eq_zero_or_pos k with hzero | hpos
    · exact .inl hzero
    · have hq : q ≠ 0 := by
        rintro rfl
        rw [Nat.log2_zero] at hk
        omega
      exact .inr ((Nat.le_log2 hq).1 (by omega))

/-- A mantissa in which rounding has carried is one binary digit shorter again. -/
theorem exists_carried {m k : Nat} (negative : Bool) (hm : m ≤ 2 ^ 53) (hlow : k = 0 ∨ 2 ^ 52 ≤ m)
    (hk : k ≤ 2044) : ∃ z, (if m < Nat.pow 2 53 then ofParts negative m k
      else ofParts negative (Nat.pow 2 52) (k + 1)) = .finite z ∧
        z.negative = negative ∧ z.units = m * 2 ^ k := by
  by_cases hlt : m < Nat.pow 2 53
  · refine ⟨⟨negative, m, k, hlt, hlow, by omega⟩, ?_, rfl, rfl⟩
    rw [if_pos hlt, ofParts, dif_pos ⟨hlt, hlow, by omega⟩]
  · obtain rfl : m = Nat.pow 2 53 := Nat.le_antisymm hm (Nat.not_lt.1 hlt)
    refine ⟨⟨negative, 2 ^ 52, k + 1, by decide, .inr (by decide), by omega⟩, ?_, rfl, ?_⟩
    · rw [if_neg hlt, ofParts, dif_pos ⟨by decide, .inr (by decide), by omega⟩]
      rfl
    · change 2 ^ 52 * 2 ^ (k + 1) = 2 ^ 53 * 2 ^ k
      omega

theorem ofInt_one : ofInt 1 = .finite one := by
  have hone := ofUnits_units one
  rw [units_one] at hone
  rw [ofInt, ofRatio, Int.natAbs_one, Nat.one_mul]
  exact hone

/-- A quotient is rounded at some binary place, no further in front than its size asks for. -/
theorem exists_ofUnits (negative : Bool) (hs : s ≤ 2044) (h : num ≤ den * 2 ^ (52 + s)) :
    ∃ z k, ofUnits negative num den = .finite z ∧ k ≤ s ∧ z.negative = negative ∧
      z.units = roundDiv num (den * 2 ^ k) * 2 ^ k := by
  obtain ⟨k, hk⟩ : ∃ k, (num / den).log2 + 1 - 53 = k := ⟨_, rfl⟩
  obtain ⟨hhigh, hlow⟩ := lead_bounds hk
  have hpow : 0 < 2 ^ k := Nat.pow_pos (by decide)
  have hplace : k ≤ s := by
    have hq : num / den < 2 ^ (53 + s) :=
      (Nat.div_le_of_le_mul h).trans_lt (Nat.pow_lt_pow_right (by decide) (by omega))
    by_cases hzero : num / den = 0
    · rw [hzero, Nat.log2_zero] at hk
      omega
    · have hlog := (Nat.log2_lt hzero).2 hq
      omega
  have hround : num / den / 2 ^ k ≤ roundDiv num (den * 2 ^ k) ∧
      roundDiv num (den * 2 ^ k) ≤ num / den / 2 ^ k + 1 := by
    rw [Nat.div_div_eq_div_mul]
    rcases roundDiv_cases num (den * 2 ^ k) with ⟨hm, -⟩ | ⟨hm, -⟩ <;> omega
  have hm : roundDiv num (den * 2 ^ k) ≤ 2 ^ 53 := by
    have hmantissa : num / den / 2 ^ k < 2 ^ 53 := by
      rwa [Nat.div_lt_iff_lt_mul hpow, ← Nat.pow_add]
    omega
  have hlead : k = 0 ∨ 2 ^ 52 ≤ roundDiv num (den * 2 ^ k) := by
    refine hlow.imp_right fun hlow => ?_
    rw [Nat.pow_add] at hlow
    exact ((Nat.le_div_iff_mul_le hpow).2 hlow).trans hround.1
  obtain ⟨z, hz, hnegative, hunits⟩ := exists_carried negative hm hlead (by omega)
  refine ⟨z, k, ?_, hplace, hnegative, hunits⟩
  rw [← hz]
  simp only [ofUnits, hk, Nat.pow_eq]

/-- Rounded to units, a quotient of at most so many binary digits keeps within them and is off by half
of its last one. -/
theorem exists_ofUnits_error (negative : Bool) (hden : 0 < den) (hs : s ≤ 2044)
    (h : num ≤ den * 2 ^ (52 + s)) : ∃ z, ofUnits negative num den = .finite z ∧
      z.negative = negative ∧ z.units ≤ 2 ^ (52 + s) ∧
        2 * |(z.units : ℚ) - num / den| ≤ 2 ^ s := by
  obtain ⟨z, k, hz, hk, hnegative, hunits⟩ := exists_ofUnits negative hs h
  have hpow : 0 < den * 2 ^ k := Nat.mul_pos hden (Nat.pow_pos (by decide))
  have hdigits : 2 ^ (52 + s - k) * 2 ^ k = 2 ^ (52 + s) := by
    rw [← Nat.pow_add, Nat.sub_add_cancel (by omega)]
  have hwithin : z.units ≤ 2 ^ (52 + s) := by
    rw [hunits, ← hdigits]
    refine Nat.mul_le_mul_right _ (roundDiv_le hpow ?_)
    rwa [Nat.mul_left_comm, hdigits]
  refine ⟨z, hz, hnegative, hwithin, ?_⟩
  obtain ⟨hlow, hhigh⟩ := roundDiv_error hpow num
  have hmul : roundDiv num (den * 2 ^ k) * (den * 2 ^ k) = z.units * den := by
    rw [hunits, Nat.mul_comm den, Nat.mul_assoc]
  rw [hmul] at hlow hhigh
  have hdenQ : (0 : ℚ) < den := Nat.cast_pos.2 hden
  have hquotient : (num : ℚ) / den * den = num := div_mul_cancel₀ _ hdenQ.ne'
  have hlowQ : 2 * ((z.units : ℚ) * den) ≤ 2 * num + den * 2 ^ k := by exact_mod_cast hlow
  have hhighQ : 2 * (num : ℚ) ≤ 2 * (z.units * den) + den * 2 ^ k := by exact_mod_cast hhigh
  have hplace : 2 * |(z.units : ℚ) - num / den| ≤ 2 ^ k := by
    rw [← abs_two, ← abs_mul, abs_le]
    constructor <;> refine le_of_mul_le_mul_right ?_ hdenQ
    · linarith
    · linarith
  exact hplace.trans (pow_le_pow_right₀ one_le_two hk)

theorem exists_near (hden : 0 < den) (h : num ≤ den * unit) :
    ∃ z, ofUnits false num den = .finite z ∧ 0 ≤ z.toRat ∧ z.toRat ≤ 1 ∧
      |z.toRat - (num : ℚ) / den / unit| ≤ roundoff := by
  obtain ⟨s, hs, hunit⟩ := exists_unit_eq
  obtain ⟨z, hz, hnegative, hwithin, herror⟩ := exists_ofUnits_error false hden hs (hunit ▸ h)
  refine ⟨z, hz, toRat_nonneg hnegative, ?_, ?_⟩
  · rw [toRat_of_nonneg hnegative, div_le_one unit_pos, Nat.cast_le, hunit]
    exact hwithin
  · have hplace : (unit : ℚ) = 2 ^ 52 * 2 ^ s := by
      rw [hunit, Nat.cast_pow, pow_add, Nat.cast_two]
    rw [toRat_of_nonneg hnegative, ← sub_div, abs_div, abs_of_pos unit_pos, div_le_iff₀ unit_pos,
      hplace, roundoff]
    linarith

/-- A quotient between zero and one is rounded to a double between them, half a step away. -/
theorem exists_ofRatio (hden : 0 < den) (h : num ≤ den) :
    ∃ z, ofRatio false num den = .finite z ∧ 0 ≤ z.toRat ∧ z.toRat ≤ 1 ∧
      |z.toRat - (num : ℚ) / den| ≤ roundoff := by
  have hunits : ((num * unit : Nat) : ℚ) / den / unit = num / den := by
    rw [Nat.cast_mul, div_right_comm, mul_div_cancel_right₀ _ unit_pos.ne']
  rw [← hunits]
  exact exists_near hden (Nat.mul_le_mul_right unit h)

theorem ofRatio_zero (den : Nat) : ofRatio false 0 den = .finite (.zero false) := by
  simp [ofRatio, ofUnits, roundDiv, ofParts, FiniteDouble.zero]

/-- A difference between zero and one is rounded to a double between them, half a step away. -/
theorem exists_sub (hle : y.toRat ≤ x.toRat) (hone : x.toRat - y.toRat ≤ 1) :
    ∃ z, sub x y = .finite z ∧ 0 ≤ z.toRat ∧ z.toRat ≤ 1 ∧
      |z.toRat - (x.toRat - y.toRat)| ≤ roundoff := by
  have hvalues : y.value ≤ x.value := by
    rwa [toRat, toRat, div_le_div_iff_of_pos_right unit_pos, Int.cast_le] at hle
  obtain ⟨d, hd⟩ : ∃ d : Nat, x.value - y.value = d := Int.eq_ofNat_of_zero_le (by omega)
  have hdifference : x.toRat - y.toRat = (d : ℚ) / unit := by
    rw [toRat, toRat, ← sub_div, ← Int.cast_sub, hd, Int.cast_natCast]
  have hsub : sub x y = ofUnits false d 1 := by
    simp only [sub, hd, Int.natAbs_natCast]
    rw [decide_eq_false (Int.not_lt.2 (Int.natCast_nonneg d))]
  have hsmall : d ≤ 1 * unit := by
    rwa [hdifference, div_le_one unit_pos, Nat.cast_le, ← Nat.one_mul unit] at hone
  have hnear := exists_near Nat.one_pos hsmall
  rwa [Nat.cast_one, div_one, ← hsub, ← hdifference] at hnear

theorem sub_zero (h : x.negative = false) : sub x (.zero false) = .finite x := by
  have hzero : (FiniteDouble.zero false).value = 0 := by simp [FiniteDouble.zero, value, units]
  have hvalue : x.value = x.units := by rw [value, h, if_neg Bool.false_ne_true]
  have hexact := ofUnits_units x
  rw [h] at hexact
  simp only [sub, hzero, hvalue, Int.sub_zero, Int.natAbs_natCast]
  rw [decide_eq_false (Int.not_lt.2 (Int.natCast_nonneg _)), hexact]

end Double

end ChatPlan

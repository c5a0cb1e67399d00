import Mathlib.Algebra.Order.Field.Power
import Mathlib.Data.Nat.Cast.Order.Field
import Mathlib.Tactic.Linarith
import Mathlib.Tactic.Positivity
import Mathlib.Tactic.Ring
import Router.Binary

/-!
Bounds on rounded numbers. Rounding at most doubles a fraction, up to the least positive number, and a
fraction below a quarter of the greatest power of two stays finite.
-/

set_option autoImplicit false
set_option relaxedAutoImplicit false

namespace Router.Binary

def value (b : Binary) : ℚ := b.significand * 2 ^ b.exponent

theorem value_nonneg (b : Binary) : 0 ≤ b.value := by
  rw [value]
  positivity

theorem two_zpow_le {num den : Nat} (hnum : num ≠ 0) (hden : den ≠ 0) :
    (2 : ℚ) ^ ((num.log2 : ℤ) - den.log2 - 1) ≤ num / den := by
  have hlow : (2 : ℚ) ^ num.log2 ≤ num := by exact_mod_cast Nat.log2_self_le hnum
  have hhigh : (den : ℚ) ≤ 2 ^ (den.log2 + 1) := by exact_mod_cast Nat.lt_log2_self.le
  have hpos : (0 : ℚ) < den := by positivity
  have hsplit : (num.log2 : ℤ) - den.log2 - 1 = (num.log2 : ℤ) - ((den.log2 + 1 : Nat) : ℤ) := by
    push_cast
    ring
  rw [hsplit, zpow_sub₀ two_ne_zero, zpow_natCast, zpow_natCast]
  exact div_le_div₀ (by positivity) hlow hpos hhigh

theorem exponentOf_le (num den : Nat) :
    exponentOf num den ≤ max leastExponent ((num.log2 : ℤ) - den.log2 - 52) := by
  rw [exponentOf]
  refine max_le_max le_rfl ?_
  split <;> omega

theorem inUnits_div (num den : Nat) (e : ℤ) :
    ((inUnits num den e).1 : ℚ) / (inUnits num den e).2 = num / den * 2 ^ (-e) := by
  obtain ⟨k, rfl | rfl⟩ := e.eq_nat_or_neg
  · have hzero : (-(k : ℤ)).toNat = 0 := by omega
    simp [inUnits, hzero, zpow_neg, div_eq_mul_inv, mul_assoc, mul_comm]
  · have hzero : (-(k : ℤ)).toNat = 0 := by omega
    simp only [inUnits, hzero, neg_neg, Int.toNat_natCast, zpow_natCast, Nat.pow_eq]
    push_cast
    ring

theorem roundQuotient_le (num den : Nat) : (roundQuotient num den : ℚ) ≤ num / den + 1 := by
  have hle : roundQuotient num den ≤ num / den + 1 := by
    rw [roundQuotient]
    split <;> omega
  have hcast : (roundQuotient num den : ℚ) ≤ ((num / den : Nat) : ℚ) + 1 := by exact_mod_cast hle
  have hdiv : ((num / den : Nat) : ℚ) ≤ (num : ℚ) / den := Nat.cast_div_le
  linarith

/-- The exponent of the result goes up only when the significand is used up. -/
theorem round_cases {num : Nat} (hnum : num ≠ 0) (den : Nat) :
    let e := exponentOf num den
    let m := roundQuotient (inUnits num den e).1 (inUnits num den e).2
    (round num den).exponent ≤ e + 1 ∧ (round num den).value ≤ m * 2 ^ e := by
  intro e m
  have hround : round num den = if m = significandLimit then ⟨m / 2, e + 1⟩ else ⟨m, e⟩ := by
    rw [round, if_neg hnum]
  rw [hround]
  split
  · refine ⟨le_rfl, ?_⟩
    have hhalf : ((m / 2 : Nat) : ℚ) ≤ (m : ℚ) / 2 := by exact_mod_cast Nat.cast_div_le
    have hpos : (0 : ℚ) ≤ 2 ^ e := by positivity
    calc ((m / 2 : Nat) : ℚ) * 2 ^ (e + 1) = (m / 2 : Nat) * 2 * 2 ^ e := by
          rw [zpow_add_one₀ two_ne_zero]
          ring
      _ ≤ m * 2 ^ e := mul_le_mul_of_nonneg_right (by linarith) hpos
  · exact ⟨(lt_add_one e).le, le_rfl⟩

theorem value_round_le (num : Nat) {den : Nat} (hden : den ≠ 0) :
    (round num den).value ≤ 2 * (num / den) + 2 ^ leastExponent := by
  have hleast : (0 : ℚ) < 2 ^ leastExponent := by positivity
  by_cases hnum : num = 0
  · have hzero : (round num den).value = 0 := by simp [round, hnum, value]
    rw [hzero, hnum]
    simpa using hleast.le
  · have hfraction := two_zpow_le hnum hden
    have hunits := inUnits_div num den (exponentOf num den)
    have hrounded := roundQuotient_le (inUnits num den (exponentOf num den)).1
      (inUnits num den (exponentOf num den)).2
    have hvalue := (round_cases hnum den).2
    have hexponent := exponentOf_le num den
    rw [hunits] at hrounded
    generalize roundQuotient _ _ = m at hrounded hvalue
    generalize exponentOf num den = e at hrounded hvalue hexponent
    have hpos : (0 : ℚ) < 2 ^ e := by positivity
    have hone : (2 : ℚ) ^ (-e) * 2 ^ e = 1 := by
      rw [← zpow_add₀ two_ne_zero, neg_add_cancel, zpow_zero]
    have hunit : (2 : ℚ) ^ e ≤ num / den + 2 ^ leastExponent := by
      rcases le_max_iff.1 hexponent with hle | hle
      · have hpow : (2 : ℚ) ^ e ≤ 2 ^ leastExponent := zpow_le_zpow_right₀ one_le_two hle
        have hnonneg : (0 : ℚ) ≤ num / den := by positivity
        linarith
      · have hpow : (2 : ℚ) ^ e ≤ 2 ^ ((num.log2 : ℤ) - den.log2 - 1) :=
          zpow_le_zpow_right₀ one_le_two (by omega)
        linarith
    calc (round num den).value ≤ m * 2 ^ e := hvalue
      _ ≤ (num / den * 2 ^ (-e) + 1) * 2 ^ e := mul_le_mul_of_nonneg_right hrounded hpos.le
      _ = num / den + 2 ^ e := by rw [add_mul, mul_assoc, hone, mul_one, one_mul]
      _ ≤ 2 * (num / den) + 2 ^ leastExponent := by linarith

theorem value_ofNat_le (n : Nat) : (ofNat n).value ≤ 3 * n := by
  by_cases hzero : n = 0
  · simp [hzero, ofNat, round, value]
  · have hround := value_round_le n one_ne_zero
    have hone : (1 : ℚ) ≤ n := by exact_mod_cast Nat.one_le_iff_ne_zero.2 hzero
    have hleast : (2 : ℚ) ^ leastExponent ≤ 1 := zpow_le_one_of_nonpos₀ one_le_two (by decide)
    rw [Nat.cast_one, div_one] at hround
    exact hround.trans (by linarith)

-- The exponent is kept folded, since simp would work out the power.
@[irreducible]
def safeExponent : Nat := 1022

/-- A quarter of the power of two that no finite number reaches. -/
def safeLimit : Nat := Nat.pow 2 safeExponent

theorem isFinite_round {num den : Nat} (hden : den ≠ 0) (h : (num : ℚ) / den < safeLimit) :
    (round num den).isFinite = true := by
  rw [isFinite, decide_eq_true_eq]
  by_cases hnum : num = 0
  · simp [round, hnum, leastExponent, greatestExponent]
  · have hfraction := (two_zpow_le hnum hden).trans_lt h
    rw [safeLimit, Nat.pow_eq, Nat.cast_pow, ← zpow_natCast, Nat.cast_ofNat] at hfraction
    have hlog := (zpow_lt_zpow_iff_right₀ one_lt_two).1 hfraction
    have hexponent := exponentOf_le num den
    have hround := (round_cases hnum den).1
    have hsafe : safeExponent = 1022 := by rw [safeExponent]
    simp only [leastExponent, greatestExponent] at *
    omega

theorem isFinite_mul {a b : Binary} (h : a.value * b.value < safeLimit) :
    (a.mul b).isFinite = true := by
  have hden : Nat.pow 2 (-(a.exponent + b.exponent)).toNat ≠ 0 := (Nat.two_pow_pos _).ne'
  have hunits := inUnits_div (a.significand * b.significand) 1 (-(a.exponent + b.exponent))
  simp only [inUnits, neg_neg, one_mul, Nat.cast_one, div_one] at hunits
  refine isFinite_round hden ?_
  rw [hunits, zpow_add₀ two_ne_zero]
  rw [value, value] at h
  push_cast
  linarith

end Router.Binary

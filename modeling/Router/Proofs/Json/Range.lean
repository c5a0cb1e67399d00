import Mathlib.Tactic.NormNum
import Router.Proofs.Binary
import Router.Proofs.Json.Spelling

/-!
Which numerals are in range. The digits that do not fit into 64 bits are left out, and every step is rounded,
but all of this makes a number at most a few times as great; so a numeral that is not near the greatest
floating-point number is in range.
-/

set_option autoImplicit false
set_option relaxedAutoImplicit false

namespace Router.Json

def fractionDigits : Option Digits → List Char
  | none => []
  | some digits => digits.text

def exponentValue : Option Exponent → ℤ
  | none => 0
  | some x =>
    let k := Nat.ofDigitChars 10 x.digits.text 0
    if x.sign = .minus then -k else k

/-- The exact value of a numeral without its sign. -/
def Numeral.magnitude (n : Numeral) : ℚ :=
  Nat.ofDigitChars 10 (n.whole.text ++ fractionDigits n.fraction) 0 *
    10 ^ (exponentValue n.exponent - (fractionDigits n.fraction).length)

-- The exponent is kept folded, since simp would work out the power.
@[irreducible]
def safePower : Nat := 306

/-- A magnitude that is in range whatever its digits are. -/
def safeMagnitude : Nat := Nat.pow 10 safePower

theorem safeMagnitude_lt : 18 * safeMagnitude < Binary.safeLimit := by decide +kernel

theorem safeMagnitude_le {k : Nat} (h : 308 < k) : 2 * safeMagnitude ≤ 10 ^ k := by
  have hpow : 2 * safeMagnitude ≤ 10 ^ (safePower + 1) := by decide +kernel
  have hsafe : safePower = 306 := by rw [safePower]
  exact hpow.trans (Nat.pow_le_pow_right (by decide) (by omega))

theorem isSome_scaled? {significand : Nat} {scale : ℤ}
    (h : (significand : ℚ) * 10 ^ scale < 2 * safeMagnitude) :
    (scaled? significand scale).isSome = true := by
  rw [scaled?]
  by_cases hneg : scale < 0
  · simp [hneg]
  · obtain ⟨k, rfl⟩ := Int.eq_ofNat_of_zero_le (not_lt.1 hneg)
    rw [zpow_natCast] at h
    by_cases hk : (k : ℤ) ≤ 308
    · have hpower : (powerOfTen k).value ≤ 3 * 10 ^ k := by
        simpa [powerOfTen] using Binary.value_ofNat_le (Nat.pow 10 k)
      have hlimit : (18 : ℚ) * safeMagnitude < Binary.safeLimit := by exact_mod_cast safeMagnitude_lt
      have hproduct := mul_le_mul (Binary.value_ofNat_le significand) hpower
        (Binary.value_nonneg _) (by positivity)
      have hfinite : ((Binary.ofNat significand).mul (powerOfTen k)).isFinite = true :=
        Binary.isFinite_mul (by linarith)
      simp [hneg, hk, hfinite]
    · have hzero : significand = 0 := by
        by_contra hne
        have hpow : (2 : ℚ) * safeMagnitude ≤ 10 ^ k := by
          exact_mod_cast safeMagnitude_le (by omega)
        have hone : (1 : ℚ) ≤ significand := by exact_mod_cast Nat.one_le_iff_ne_zero.2 hne
        have hle : (10 : ℚ) ^ k ≤ significand * 10 ^ k := le_mul_of_one_le_left (by positivity) hone
        linarith
      subst hzero
      simp [hneg, hk, Binary.ofNat, Binary.round, Binary.isZero]

theorem ofDigitChars_lt {digits : List Char} (h : ∀ c ∈ digits, c.isDigit = true) :
    Nat.ofDigitChars 10 digits 0 < 10 ^ digits.length := by
  induction digits with
  | nil => simp [Nat.ofDigitChars]
  | cons c digits ih =>
    obtain ⟨hc, hdigits⟩ := List.forall_mem_cons.1 h
    have hvalue : c.toNat - '0'.toNat ≤ 9 := digitValue_le hc
    have hlater := ih hdigits
    rw [Nat.ofDigitChars_cons, Nat.ofDigitChars_eq_ofDigitChars_zero, Nat.mul_zero, Nat.zero_add,
      List.length_cons, Nat.pow_succ]
    have hmul : 10 ^ digits.length * (c.toNat - '0'.toNat) ≤ 10 ^ digits.length * 9 :=
      Nat.mul_le_mul_left _ hvalue
    omega

theorem pow_mul_le_ofDigitChars (digits : List Char) (n : Nat) :
    10 ^ digits.length * n ≤ Nat.ofDigitChars 10 digits n := by
  rw [Nat.ofDigitChars_eq_ofDigitChars_zero]
  exact Nat.le_add_right _ _

theorem le_ofDigitChars (digits : List Char) (n : Nat) : n ≤ Nat.ofDigitChars 10 digits n :=
  (Nat.le_mul_of_pos_left n (by positivity)).trans (pow_mul_le_ofDigitChars digits n)

theorem gather_eq (digits : List Char) (limit n : Nat) :
    ∃ front, digits = front ++ (gather limit n digits).2.2 ∧
      (gather limit n digits).2.1 = front.length ∧
      (gather limit n digits).1 = Nat.ofDigitChars 10 front n := by
  induction digits generalizing n with
  | nil => exact ⟨[], rfl, rfl, rfl⟩
  | cons c digits ih =>
    rw [gather]
    split
    · obtain ⟨front, htext, htaken, hvalue⟩ := ih (n * 10 + digitValue c)
      refine ⟨c :: front, congrArg (c :: ·) htext, congrArg (· + 1) htaken, ?_⟩
      rw [Nat.ofDigitChars_cons, Nat.mul_comm 10 n]
      exact hvalue
    · exact ⟨[], rfl, rfl, rfl⟩

theorem gathered_ne_zero {limit n : Nat} (hlimit : 9 ≤ limit) {digits : List Char}
    (h : ∀ c ∈ digits, c.isDigit = true) (hleft : (gather limit n digits).2.2 ≠ []) :
    (gather limit n digits).1 ≠ 0 := by
  induction digits generalizing n with
  | nil => exact absurd rfl hleft
  | cons c digits ih =>
    obtain ⟨hc, hdigits⟩ := List.forall_mem_cons.1 h
    rw [gather] at hleft ⊢
    split at hleft
    · rename_i hfits
      rw [if_pos hfits]
      exact ih hdigits hleft
    · rename_i hfull
      rw [if_neg hfull]
      rintro rfl
      have hdigit : digitValue c ≤ limit := (digitValue_le hc).trans hlimit
      exact hfull (by simp [hc, hdigit])

theorem gather_of_le {limit n : Nat} {digits : List Char} (h : ∀ c ∈ digits, c.isDigit = true)
    (hle : Nat.ofDigitChars 10 digits n ≤ limit) :
    (gather limit n digits).1 = Nat.ofDigitChars 10 digits n ∧ (gather limit n digits).2.2 = [] := by
  induction digits generalizing n with
  | nil => exact ⟨rfl, rfl⟩
  | cons c digits ih =>
    obtain ⟨hc, hdigits⟩ := List.forall_mem_cons.1 h
    rw [Nat.ofDigitChars_cons, Nat.mul_comm 10 n] at hle
    have hstep : n * 10 + digitValue c ≤ limit := (le_ofDigitChars digits _).trans hle
    have hfits : (c.isDigit && n * 10 + digitValue c ≤ limit) = true := by simp [hc, hstep]
    obtain ⟨hvalue, hleft⟩ := ih hdigits hle
    rw [gather, if_pos hfits, Nat.ofDigitChars_cons, Nat.mul_comm 10 n]
    exact ⟨hvalue, hleft⟩

/-- Digits left in front of the point and behind it make the significand at most twice as great as it
should be. -/
theorem significand_le {limit m taken m' taken' : Nat} {whole digits left left' : List Char}
    (hlimit : 9 ≤ limit) (hwhole : ∀ c ∈ whole, c.isDigit = true)
    (hdigits : ∀ c ∈ digits, c.isDigit = true) (hfirst : gather limit 0 whole = (m, taken, left))
    (hsecond : gather limit m digits = (m', taken', left')) :
    m' * 10 ^ (left.length + left'.length) ≤ 2 * Nat.ofDigitChars 10 (whole ++ digits) 0 := by
  obtain ⟨front, hfront, -, hm⟩ := gather_eq whole limit 0
  obtain ⟨front', hfront', -, hm'⟩ := gather_eq digits limit m
  rw [hfirst] at hfront hm
  rw [hsecond] at hfront' hm'
  dsimp only at hfront hm hfront' hm'
  have hvalue : Nat.ofDigitChars 10 whole 0 = Nat.ofDigitChars 10 left m := by
    rw [hfront, Nat.ofDigitChars_append, ← hm]
  rw [Nat.ofDigitChars_append, hvalue]
  by_cases hall : left = []
  · subst hall
    rw [hfront', Nat.ofDigitChars_append]
    show m' * 10 ^ (0 + left'.length) ≤
      2 * Nat.ofDigitChars 10 left' (Nat.ofDigitChars 10 front' m)
    have hle := pow_mul_le_ofDigitChars left' m'
    rw [← hm', Nat.zero_add, Nat.mul_comm]
    omega
  · have hpos : 1 ≤ m := by
      have hne := gathered_ne_zero hlimit hwhole (by rwa [hfirst])
      rw [hfirst] at hne
      exact Nat.one_le_iff_ne_zero.2 hne
    have hlength : digits.length = front'.length + left'.length := by
      rw [hfront', List.length_append]
    have htaken : Nat.ofDigitChars 10 front' 0 < 10 ^ front'.length :=
      ofDigitChars_lt fun c hc => hdigits c (hfront' ▸ List.mem_append_left _ hc)
    have hsecond : m' ≤ 2 * (10 ^ front'.length * m) := by
      have hone : 10 ^ front'.length * 1 ≤ 10 ^ front'.length * m := Nat.mul_le_mul_left _ hpos
      rw [hm', Nat.ofDigitChars_eq_ofDigitChars_zero]
      omega
    calc m' * 10 ^ (left.length + left'.length)
        ≤ 2 * (10 ^ front'.length * m) * 10 ^ (left.length + left'.length) :=
          Nat.mul_le_mul_right _ hsecond
      _ = 2 * (10 ^ digits.length * (10 ^ left.length * m)) := by
          rw [hlength]
          ring
      _ ≤ 2 * (10 ^ digits.length * Nat.ofDigitChars 10 left m) :=
          Nat.mul_le_mul_left 2 (Nat.mul_le_mul_left _ (pow_mul_le_ofDigitChars left m))
      _ ≤ 2 * Nat.ofDigitChars 10 digits (Nat.ofDigitChars 10 left m) :=
          Nat.mul_le_mul_left 2 (pow_mul_le_ofDigitChars digits _)

theorem isSome_float? (negative : Bool) {significand : Nat} {scale : ℤ}
    (h : (significand : ℚ) * 10 ^ scale < 2 * safeMagnitude) :
    (float? negative significand scale).isSome = true := by
  rw [float?, Option.isSome_map]
  exact isSome_scaled? h

theorem isSome_withExponent? {exponent : Option Exponent} (negative : Bool) {significand : Nat}
    {scale : ℤ} (hexponent : ∀ x ∈ exponent, Nat.ofDigitChars 10 x.digits.text 0 ≤ maxExponent)
    (h : (significand : ℚ) * 10 ^ (scale + exponentValue exponent) < 2 * safeMagnitude) :
    (withExponent? exponent negative significand scale).isSome = true := by
  cases exponent with
  | none => exact isSome_float? negative (by simpa [exponentValue] using h)
  | some x =>
    obtain ⟨hvalue, hleft⟩ := gather_of_le x.digits.isDigit (hexponent x rfl)
    rw [withExponent?, Exponent.number?]
    dsimp only
    rw [hleft, hvalue, if_neg (not_not_intro rfl)]
    refine isSome_float? negative ?_
    rw [exponentValue] at h
    split
    · rename_i hsign
      rwa [if_pos hsign, ← sub_eq_add_neg] at h
    · rename_i hsign
      rwa [if_neg hsign] at h

theorem isDigit_of_mem_fractionDigits (fraction : Option Digits) :
    ∀ c ∈ fractionDigits fraction, c.isDigit = true := by
  cases fraction with
  | none => simp [fractionDigits]
  | some digits => exact digits.isDigit

theorem withFraction?_eq (fraction : Option Digits) (exponent : Option Exponent) (negative : Bool)
    (significand : Nat) (scale : ℤ) :
    withFraction? fraction exponent negative significand scale =
      withExponent? exponent negative (gather maxSignificand significand (fractionDigits fraction)).1
        (scale - (gather maxSignificand significand (fractionDigits fraction)).2.1) := by
  cases fraction with
  | none => simp [withFraction?, fractionDigits, gather]
  | some digits => rfl

/-- A numeral is in range if it is below `safeMagnitude` and its exponent fits into 31 bits. -/
theorem isSome_number? {n : Numeral} (h : n.magnitude < safeMagnitude)
    (hexponent : ∀ x ∈ n.exponent, Nat.ofDigitChars 10 x.digits.text 0 ≤ maxExponent) :
    n.number?.isSome = true := by
  rw [Numeral.number?]
  generalize hfirst : gather maxSignificand 0 n.whole.text = first
  obtain ⟨m, taken, left⟩ := first
  dsimp only
  split
  · rfl
  · rw [withFraction?_eq]
    refine isSome_withExponent? n.negative hexponent ?_
    have hdigits := isDigit_of_mem_fractionDigits n.fraction
    have hlength := taken_add_length_left maxSignificand m (fractionDigits n.fraction)
    generalize hsecond : gather maxSignificand m (fractionDigits n.fraction) = second at hlength ⊢
    obtain ⟨m', taken', left'⟩ := second
    have hle := significand_le (by decide) n.whole.isDigit hdigits hfirst hsecond
    have hscale : (left.length : ℤ) - taken' + exponentValue n.exponent =
        ((left.length + left'.length : Nat) : ℤ) +
          (exponentValue n.exponent - (fractionDigits n.fraction).length) := by
      rw [← hlength]
      push_cast
      ring
    have hcast : (m' : ℚ) * 10 ^ (left.length + left'.length) ≤
        2 * Nat.ofDigitChars 10 (n.whole.text ++ fractionDigits n.fraction) 0 := by
      exact_mod_cast hle
    rw [hscale, zpow_add₀ (by norm_num), zpow_natCast, ← mul_assoc]
    refine (mul_le_mul_of_nonneg_right hcast (by positivity)).trans_lt ?_
    rw [mul_assoc]
    exact mul_lt_mul_of_pos_left h two_pos

theorem exists_scalar_write {n : Numeral} (h : n.magnitude < safeMagnitude)
    (hexponent : ∀ x ∈ n.exponent, Nat.ofDigitChars 10 x.digits.text 0 ≤ maxExponent) :
    ∃ x, Scalar (.number x) n.write := by
  obtain ⟨x, hx⟩ := Option.isSome_iff_exists.1 (isSome_number? h hexponent)
  exact ⟨x, .number hx⟩

end Router.Json

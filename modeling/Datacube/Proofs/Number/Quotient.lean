import Datacube.Proofs.Number.Arithmetic

-- Differences and quotients of doubles: they are the doubles next to the exact results.
namespace Datacube.Number

open Float.Model (Format UnpackedFloat totalExponent)
open Float.Model.UnpackedFloat

section Difference

theorem parts_sub (x y : Float) :
    parts (x - y) = stored (sub Format.binary64 (parts x) (parts y)) := rfl

theorem near_sub {a b : UnpackedFloat} (ha : Proper a) (hb : Proper b)
    (hafin : a.isFinite = true) (hbfin : b.isFinite = true) :
    Near (value a - value b) (stored (sub Format.binary64 a b)) := by
  cases ha with
  | infinity s => exact absurd hafin Bool.false_ne_true
  | zero s =>
      rw [show value (.zero s) = 0 from rfl, zero_sub]
      cases hb with
      | infinity s' => exact absurd hbfin Bool.false_ne_true
      | zero s' =>
          rw [show value (.zero s') = 0 from rfl, neg_zero]
          cases s <;> cases s' <;> exact near_zero _
      | @finite s' m' e' h' =>
          rw [← value_neg]
          exact near_finite (-s') h'
  | @finite s m e h =>
      cases hb with
      | infinity s' => exact absurd hbfin Bool.false_ne_true
      | zero s' =>
          rw [show value (.zero s') = 0 from rfl, sub_zero]
          exact near_finite s h
      | @finite s' m' e' h' =>
          have hnear := near_normalize (s.apply (decreaseExponent m e (min e e')).1 -
            s'.apply (decreaseExponent m' e' (min e e')).1) (min e e') .positive
          rw [Int.cast_sub, sub_mul, apply_decreaseExponent s m (min_le_left e e'),
            apply_decreaseExponent s' m' (min_le_right e e')] at hnear
          exact hnear

end Difference

section Quotient

-- The remainder of a division says where the quotient lies above its whole part.
theorem represents_fraction {m n : Nat} (hn : 0 < n) :
    Represents (ExtendedMantissa.ofMantissaAndAccuracy (m / n) (accuracyOfFraction (m % n) n))
      (m / n) := by
  have hpos : (0 : ℚ) < n := Nat.cast_pos.mpr hn
  have hsplit : (m : ℚ) / n = (m / n : Nat) + (m % n : Nat) / n := by
    rw [eq_comm, ← sub_eq_zero]
    have hdiv : ((m / n : Nat) : ℚ) * n + (m % n : Nat) = m := by
      exact_mod_cast Nat.div_add_mod' m n
    field_simp
    linarith
  have hless : ((m % n : Nat) : ℚ) < n := by exact_mod_cast Nat.mod_lt m hn
  rw [hsplit]
  generalize m / n = q at *
  generalize m % n = r at *
  have hnonneg : (0 : ℚ) ≤ r := r.cast_nonneg
  unfold accuracyOfFraction
  split
  · next hzero =>
    rw [hzero, Nat.cast_zero, zero_div, add_zero]
    exact represents_exact q
  · next hrest =>
    have hrest : (0 : ℚ) < r := Nat.cast_pos.mpr (Nat.pos_of_ne_zero hrest)
    rcases lt_trichotomy (2 * r) n with hlt | heq | hgt
    · have hhalf : (2 : ℚ) * r < n := by exact_mod_cast hlt
      rw [Nat.compare_eq_lt.mpr hlt]
      refine ⟨r / n, by positivity, ?_, ?_, ?_⟩
      · rw [div_lt_iff₀ hpos]
        linarith
      · simp only [ExtendedMantissa.ofMantissaAndAccuracy, true_iff]
        positivity
      · simp [ExtendedMantissa.ofMantissaAndAccuracy]
    · have hhalf : (2 : ℚ) * r = n := by exact_mod_cast heq
      rw [Nat.compare_eq_eq.mpr heq]
      refine ⟨0, le_rfl, by norm_num, by simp [ExtendedMantissa.ofMantissaAndAccuracy], ?_⟩
      simp only [ExtendedMantissa.ofMantissaAndAccuracy, if_true, add_zero, add_right_inj]
      rw [div_eq_iff hpos.ne']
      linarith
    · have hhalf : (n : ℚ) < 2 * r := by exact_mod_cast hgt
      rw [Nat.compare_eq_gt.mpr hgt]
      refine ⟨r / n - 1 / 2, ?_, ?_, ?_, ?_⟩
      · rw [sub_nonneg, le_div_iff₀ hpos]
        linarith
      · rw [sub_lt_iff_lt_add, div_lt_iff₀ hpos]
        linarith
      · simp only [ExtendedMantissa.ofMantissaAndAccuracy, true_iff]
        rw [sub_ne_zero, Ne, div_eq_iff hpos.ne']
        linarith
      · simp only [ExtendedMantissa.ofMantissaAndAccuracy, if_true]
        ring

theorem withSign_div (s s' : Sign) (p p' : ℚ) :
    withSign (s / s') (p / p') = withSign s p / withSign s' p' := by
  cases s with
  | positive =>
      cases s' with
      | positive => rfl
      | negative => exact (div_neg p).symm
  | negative =>
      cases s' with
      | positive => exact (neg_div p' p).symm
      | negative => exact (neg_div_neg_eq p p').symm

section Core

variable {m m' : Nat} {e e' : ℤ}

-- The exponent that a quotient is computed at.
def quotientExponent (m : Nat) (e : ℤ) (m' : Nat) (e' : ℤ) : ℤ :=
  min (e - e') (Format.binary64.targetExponent (totalExponent m e - totalExponent m' e'))

-- The dividend at that exponent.
def dividend (m : Nat) (e : ℤ) (m' : Nat) (e' : ℤ) : Nat :=
  m <<< (e - e' - quotientExponent m e m' e').toNat

theorem divCore_eq : divCore Format.binary64 m e m' e' =
    (dividend m e m' e' / m', quotientExponent m e m' e',
      accuracyOfFraction (dividend m e m' e' % m') m') := rfl

theorem dividend_div (hm' : 0 < m') :
    (dividend m e m' e' : ℚ) / m' = m * 2 ^ e / (m' * 2 ^ e') / 2 ^ quotientExponent m e m' e' := by
  have hle : quotientExponent m e m' e' ≤ e - e' := min_le_left _ _
  rw [dividend, Nat.shiftLeft_eq]
  generalize quotientExponent m e m' e' = t at hle ⊢
  have hpow : ((2 ^ (e - e' - t).toNat : Nat) : ℚ) = 2 ^ e / 2 ^ e' / 2 ^ t := by
    push_cast
    rw [← zpow_natCast, Int.toNat_of_nonneg (by omega), zpow_sub₀ two_ne_zero,
      zpow_sub₀ two_ne_zero]
  rw [Nat.cast_mul, hpow]
  field_simp

-- The quotient has a leading bit where the grid of the doubles needs one, or none of the doubles
-- that are as small has one.
theorem quotient_length (hm : 0 < m) (hm' : 0 < m') :
    quotientExponent m e m' e' ≤ -1074 ∨
      0 < dividend m e m' e' / m' ∧ quotientExponent m e m' e' ≤
        Format.binary64.targetExponent
          (totalExponent (dividend m e m' e' / m') (quotientExponent m e m' e')) := by
  have hle : quotientExponent m e m' e' ≤ e - e' := min_le_left _ _
  have htarget : quotientExponent m e m' e' ≤
      max (totalExponent m e - totalExponent m' e' - 53) (-1074) := min_le_right _ _
  have hlog : (dividend m e m' e').log2 = m.log2 + (e - e' - quotientExponent m e m' e').toNat :=
    log2_shiftLeft hm _
  rw [targetExponent_eq]
  simp only [totalExponent] at htarget ⊢
  have hdividend : 0 < dividend m e m' e' := Nat.shiftLeft_pos_iff.mpr hm
  generalize quotientExponent m e m' e' = t at hle htarget hlog ⊢
  generalize dividend m e m' e' = n at hlog hdividend ⊢
  rcases le_or_gt t (-1074) with hsmall | hlarge
  · exact .inl hsmall
  · -- The dividend is longer than the divisor by more than 52 bits.
    have hlonger : m'.log2 + 1 + 52 ≤ n.log2 := by omega
    have hquotient : 2 ^ (n.log2 - (m'.log2 + 1)) ≤ n / m' := by
      rw [Nat.le_div_iff_mul_le hm']
      calc 2 ^ (n.log2 - (m'.log2 + 1)) * m'
          ≤ 2 ^ (n.log2 - (m'.log2 + 1)) * 2 ^ (m'.log2 + 1) :=
            Nat.mul_le_mul_left _ Nat.lt_log2_self.le
        _ = 2 ^ n.log2 := by rw [← pow_add]; congr 1; omega
        _ ≤ n := Nat.log2_self_le hdividend.ne'
    have hpos : 0 < n / m' := lt_of_lt_of_le (by positivity) hquotient
    have hleading := (Nat.le_log2 hpos.ne').mpr hquotient
    exact .inr ⟨hpos, by omega⟩

theorem div_holds (s : Sign) (hm : 0 < m) (hm' : 0 < m') :
    ∃ v, Rounded (m * 2 ^ e / (m' * 2 ^ e')) v ∧
      Holds s v (roundWithAccuracy Format.binary64 s (dividend m e m' e' / m')
        (quotientExponent m e m' e') (accuracyOfFraction (dividend m e m' e' % m') m')) := by
  have hrepresents : Represents (ExtendedMantissa.ofMantissaAndAccuracy (dividend m e m' e' / m')
      (accuracyOfFraction (dividend m e m' e' % m') m'))
      (m * 2 ^ e / (m' * 2 ^ e') / 2 ^ quotientExponent m e m' e') := by
    rw [← dividend_div hm']
    exact represents_fraction hm'
  rcases Nat.eq_zero_or_pos (dividend m e m' e' / m') with hzero | hpos
  · -- Less than one unit of the finest grid.
    have hsmall : quotientExponent m e m' e' ≤ -1074 := by
      rcases @quotient_length m m' e e' hm hm' with hsmall | ⟨hpos, -⟩
      · exact hsmall
      · omega
    have hbounds := hrepresents.bounds
    rw [ofMantissaAndAccuracy_mantissa, hzero, Nat.cast_zero, zero_add,
      div_lt_one (by positivity)] at hbounds
    have htarget : Format.binary64.targetExponent
        (totalExponent (dividend m e m' e' / m') (quotientExponent m e m' e')) = -1074 := by
      rw [hzero, targetExponent_eq, totalExponent, Nat.log2_zero]
      omega
    refine roundWithAccuracy_onGrid s (by rw [htarget]; exact hsmall) ?_ hrepresents
    rw [htarget]
    refine ⟨?_, le_rfl, fun h => absurd h (lt_irrefl _)⟩
    exact hbounds.2.trans_le (two_zpow_le (by omega))
  · refine roundWithAccuracy_holds s hpos ?_ hrepresents
    rcases @quotient_length m m' e e' hm hm' with hsmall | ⟨-, hlength⟩
    · rw [targetExponent_eq]
      omega
    · exact hlength

end Core

theorem near_div_finite (s s' : Sign) {m m' : Nat} {e e' : ℤ} (hm : 0 < m) (hm' : 0 < m') :
    Near (value (.finite s m e hm) / value (.finite s' m' e' hm'))
      (stored (div Format.binary64 (.finite s m e hm) (.finite s' m' e' hm'))) := by
  obtain ⟨v, hv, hu⟩ := @div_holds m m' e e' (s / s') hm hm'
  have hnear := hu.near hv (by positivity)
  rw [withSign_div] at hnear
  rw [div, divCore_eq]
  exact hnear

theorem near_div {a b : UnpackedFloat} (hafin : a.isFinite = true) (hbfin : b.isFinite = true)
    (hb : value b ≠ 0) : Near (value a / value b) (stored (div Format.binary64 a b)) := by
  cases b with
  | notANumber | infinity s => exact absurd hbfin Bool.false_ne_true
  | zero s => exact absurd rfl hb
  | finite s' m' e' hm' =>
      cases a with
      | notANumber | infinity s => exact absurd hafin Bool.false_ne_true
      | zero s =>
          rw [show value (.zero s) = 0 from rfl, zero_div]
          exact near_zero _
      | finite s m e hm => exact near_div_finite s s' hm hm'

end Quotient

end Datacube.Number

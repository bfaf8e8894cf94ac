import Datacube.Proofs.Number.Error

-- Decimals as doubles. Only the leading digits of a decimal are turned into a double, and the power
-- of ten behind them may be a product of doubles, but what is left is close to the decimal.
namespace Datacube.Number.Decimal

section Digits

variable {n : Nat}

theorem ten_pow_digitEstimate_le (hn : 0 < n) : 10 ^ digitEstimate n ≤ 4 * n := by
  have hbits : twoTo (n.log2 + 2) ≤ 4 * n := by
    have hleading := Nat.log2_self_le hn.ne'
    calc twoTo (n.log2 + 2) = 4 * 2 ^ n.log2 := by simp only [twoTo, Nat.pow_eq]; ring
      _ ≤ 4 * n := Nat.mul_le_mul_left 4 hleading
  unfold digitEstimate
  rcases Nat.eq_zero_or_pos ((Nat.toDigits 10 (twoTo (n.log2 + 2))).length - 1) with hzero | hpos
  · rw [hzero]
    omega
  · have hshort : ¬(Nat.toDigits 10 (twoTo (n.log2 + 2))).length ≤
        (Nat.toDigits 10 (twoTo (n.log2 + 2))).length - 1 := by omega
    rw [Nat.length_toDigits_le_iff (by norm_num) hpos, not_lt] at hshort
    exact hshort.trans hbits

-- If digits are cut off, then many more are left.
theorem leadingDigits_cut (hn : 0 < n) :
    (leadingDigits n).2 = 0 ∨ 10 ^ ((leadingDigits n).2 + 24) ≤ n := by
  have hcut : (leadingDigits n).2 ≤ digitEstimate n - keptDigits := Nat.div_mul_le_self _ _
  rcases Nat.eq_zero_or_pos (leadingDigits n).2 with hzero | hpos
  · exact .inl hzero
  · refine .inr ?_
    have hkept : (leadingDigits n).2 + 24 + 1 ≤ digitEstimate n := by
      simp only [keptDigits] at hcut
      omega
    have hlong : 10 ^ ((leadingDigits n).2 + 24 + 1) ≤ 4 * n :=
      (Nat.pow_le_pow_right (by norm_num) hkept).trans (ten_pow_digitEstimate_le hn)
    rw [pow_succ] at hlong
    omega

-- What is cut off is a very small part of the number.
theorem leadingDigits_close (hn : 0 < n) :
    ((leadingDigits n).1 * 10 ^ (leadingDigits n).2 : ℚ) ≤ n ∧
      (n - (leadingDigits n).1 * 10 ^ (leadingDigits n).2 : ℚ) ≤ n / 10 ^ 24 := by
  have hdigits : (leadingDigits n).1 = n / 10 ^ (leadingDigits n).2 := rfl
  have hcut := leadingDigits_cut hn
  rw [hdigits]
  generalize (leadingDigits n).2 = cut at hcut ⊢
  have hsum := Nat.div_add_mod' n (10 ^ cut)
  have hlower : n / 10 ^ cut * 10 ^ cut ≤ n := by omega
  refine ⟨by exact_mod_cast hlower, ?_⟩
  have hrest : ((n / 10 ^ cut : Nat) * 10 ^ cut : ℚ) + (n % 10 ^ cut : Nat) = n := by
    exact_mod_cast hsum
  rw [le_div_iff₀ (by positivity), ← hrest, add_sub_cancel_left, hrest]
  rcases hcut with rfl | hlong
  · simp [Nat.mod_one]
  · have hmod : n % 10 ^ cut < 10 ^ cut := Nat.mod_lt _ (by positivity)
    have hsmall : n % 10 ^ cut * 10 ^ 24 ≤ n := by
      calc n % 10 ^ cut * 10 ^ 24 ≤ 10 ^ cut * 10 ^ 24 := Nat.mul_le_mul_right _ hmod.le
        _ = 10 ^ (cut + 24) := (pow_add 10 cut 24).symm
        _ ≤ n := hlong
    exact_mod_cast hsmall

end Digits

section Double

variable {d : Decimal}

-- The digits that a double is made of, and how many were cut off behind them.
def leading (d : Decimal) : Nat × Nat :=
  if d.scale = 0 then (d.digits.natAbs, 0) else leadingDigits d.digits.natAbs

-- The number that is left of the decimal.
def truncated (d : Decimal) : ℚ :=
  d.leading.1 * 10 ^ d.leading.2 / 10 ^ d.scale

theorem toFloat_eq (h : 0 < d.digits) : d.toFloat =
    if d.scale ≤ d.leading.2 then
      Float.ofNat d.leading.1 * floatPower 1.0 10.0 (d.leading.2 - d.scale)
    else Float.ofScientific d.leading.1 true (d.scale - d.leading.2) := by
  unfold toFloat leading
  simp only [if_neg h.le.not_gt]

theorem truncated_close (h : 0 < d.digits) :
    d.truncated ≤ d.toRat ∧ d.toRat - d.truncated ≤ d.toRat / 10 ^ 24 := by
  have hdigits : (d.digits : ℚ) = d.digits.natAbs := by
    rw [Nat.cast_natAbs, abs_of_pos h]
  have hpos : 0 < d.digits.natAbs := by omega
  obtain ⟨hlower, hclose⟩ : (d.leading.1 * 10 ^ d.leading.2 : ℚ) ≤ d.digits.natAbs ∧
      (d.digits.natAbs - d.leading.1 * 10 ^ d.leading.2 : ℚ) ≤ d.digits.natAbs / 10 ^ 24 := by
    unfold leading
    split
    · norm_num
      positivity
    · exact leadingDigits_close hpos
  rw [truncated, toRat, hdigits, ← sub_div, div_right_comm]
  constructor <;> gcongr

-- The digits that are left for a product with a power of ten are those of a large number.
theorem scale_le_leading (h : 0 < d.digits) (hle : d.scale ≤ d.leading.2) :
    d.scale = 0 ∨ 10 ^ 24 ≤ d.toRat := by
  by_cases hscale : d.scale = 0
  · exact .inl hscale
  · refine .inr ?_
    rw [leading, if_neg hscale] at hle
    have hlong := (leadingDigits_cut (n := d.digits.natAbs) (by omega)).resolve_left (by omega)
    have hdigits : (d.digits : ℚ) = d.digits.natAbs := by
      rw [Nat.cast_natAbs, abs_of_pos h]
    rw [toRat, le_div_iff₀ (by positivity), hdigits, ← pow_add]
    have hpow : 10 ^ (24 + d.scale) ≤ d.digits.natAbs :=
      (Nat.pow_le_pow_right (by norm_num) (by omega)).trans hlong
    exact_mod_cast hpow

theorem approximates_one : Approximates 1.0 (1 : Nat) 0 := by
  have hnear := near_ofScientific 10 true 1
  rw [show ((10 : Nat) : ℚ) * numeralPower true 1 = (1 : Nat) by norm_num [numeralPower]] at hnear
  exact approximates_natCast hnear le_rfl (by norm_num)

theorem approximates_ten : Approximates 10.0 (10 : Nat) 0 := by
  have hnear := near_ofScientific 100 true 1
  rw [show ((100 : Nat) : ℚ) * numeralPower true 1 = (10 : Nat) by norm_num [numeralPower]] at hnear
  exact approximates_natCast hnear (by norm_num) (by norm_num)

-- A power of ten of no factors is left out.
theorem near_mul_one {q : ℚ} {x : Float} (h : Near q (parts x))
    (hfinite : (parts x).isFinite = true) : Near q (parts (x * floatPower 1.0 10.0 0)) := by
  have hone : floatPower 1.0 10.0 0 = 1.0 := by
    unfold floatPower
    rfl
  have hvalue : value (parts 1.0) = 1 :=
    le_antisymm (by simpa using approximates_one.upper) approximates_one.one_le
  have hnear := near_mul (proper_of_parts h.number)
    (proper_of_parts (ne_notANumber_of_isFinite approximates_one.finite)) hfinite
    approximates_one.finite
  rw [hvalue, mul_one, ← parts_mul] at hnear
  rw [hone]
  refine ⟨hnear.number, ?_⟩
  rw [hnear.rounds.unique (near_value hfinite).rounds]
  exact h.rounds

theorem le_half_limit {q : ℚ} (hq : q < 10 ^ 301) : q ≤ limit / 2 := by
  have hpow : 10 ^ 301 ≤ 2 ^ 1023 := by decide +kernel
  calc q ≤ 10 ^ 301 := hq.le
    _ ≤ 2 ^ ((1023 : Nat) : ℤ) := by
        rw [zpow_natCast]
        exact_mod_cast hpow
    _ = limit / 2 := by
        rw [limit, show (1024 : ℤ) = (1023 : Nat) + (1 : Nat) by norm_num, two_zpow_add]
        ring

-- Unless the decimal is large, its double is next to what is left of it.
theorem near_truncated (h : 0 < d.digits) (hsmall : d.scale = 0 ∨ d.leading.2 < d.scale)
    (hlimit : d.toRat < 10 ^ 301) : Near d.truncated (parts d.toFloat) := by
  have hnonneg : 0 ≤ d.truncated := by
    unfold truncated
    positivity
  have hbound := le_half_limit ((truncated_close h).1.trans_lt hlimit)
  rw [toFloat_eq h]
  rcases hsmall with hscale | hscale
  · have hcut : d.leading.2 = 0 := by rw [leading, if_pos hscale]
    have hvalue : d.truncated = d.leading.1 := by simp [truncated, hscale, hcut]
    rw [hscale, hcut, if_pos le_rfl, Nat.sub_zero]
    rw [hvalue] at hnonneg hbound ⊢
    have hnear := near_ofNat d.leading.1
    exact near_mul_one hnear (hnear.isFinite hnonneg hbound)
  · rw [if_neg hscale.not_ge]
    have hnear := near_ofScientific d.leading.1 true (d.scale - d.leading.2)
    have hvalue : d.leading.1 * numeralPower true (d.scale - d.leading.2) = d.truncated := by
      obtain ⟨more, hmore⟩ := Nat.exists_eq_add_of_le hscale.le
      rw [numeralPower, if_pos rfl, truncated, hmore, Nat.add_sub_cancel_left, pow_add]
      field_simp
    rwa [hvalue] at hnear

-- A few roundings do not carry a number to the limit.
theorem mul_roundings_lt_limit {p : ℚ} {count : Nat} (hcount : count ≤ 2 ^ 26)
    (hp : p ≤ limit / 2) : p * (1 + roundoff) ^ count < limit := by
  have hroundings : (1 + roundoff) ^ count < 2 := by
    have hcast : (count : ℚ) ≤ 2 ^ 26 := by exact_mod_cast hcount
    refine (roundoff_pow_le hcount).2.trans_lt ?_
    unfold roundoff
    linarith
  have hpos : 0 ≤ (1 + roundoff) ^ count := pow_nonneg (add_pos one_pos roundoff_pos).le count
  calc p * (1 + roundoff) ^ count ≤ limit / 2 * (1 + roundoff) ^ count :=
        mul_le_mul_of_nonneg_right hp hpos
    _ < limit / 2 * 2 := mul_lt_mul_of_pos_left hroundings (half_pos limit_pos)
    _ = limit := div_mul_cancel₀ _ two_ne_zero

-- Otherwise it is a product with a power of ten, of which every factor is rounded.
theorem approximates_truncated (h : 0 < d.digits) (hle : d.scale ≤ d.leading.2)
    (hlimit : d.toRat < 10 ^ 301) :
    ∃ count ≤ 302, Approximates d.toFloat d.truncated count := by
  obtain ⟨hless, hclose⟩ := truncated_close h
  obtain ⟨more, hmore⟩ := Nat.exists_eq_add_of_le hle
  have hvalue : d.truncated = d.leading.1 * 10 ^ more := by
    rw [truncated, hmore, pow_add]
    field_simp
  have hpositive : 0 < d.truncated := by
    have hpos : 0 < d.toRat := toRat_pos_iff.mpr h
    linarith
  have hbound := le_half_limit (hless.trans_lt hlimit)
  rw [toFloat_eq h, if_pos hle, hmore, Nat.add_sub_cancel_left]
  rw [hvalue] at hless hpositive hbound ⊢
  generalize d.leading.1 = digits at hless hpositive hbound ⊢
  have hdigits : 1 ≤ digits := by
    rw [Nat.one_le_iff_ne_zero]
    rintro rfl
    simp at hpositive
  have hone : (1 : ℚ) ≤ digits := by exact_mod_cast hdigits
  have hshort : more < 301 := by
    have hpow : (10 : ℚ) ^ more < 10 ^ 301 := by
      calc (10 : ℚ) ^ more ≤ digits * 10 ^ more := le_mul_of_one_le_left (by positivity) hone
        _ ≤ d.toRat := hless
        _ < 10 ^ 301 := hlimit
    exact (pow_lt_pow_iff_right₀ (by norm_num)).mp hpow
  have hlimits : ∀ {i : Nat} {p : ℚ}, i ≤ more + 2 → p ≤ digits * 10 ^ more →
      p * (1 + roundoff) ^ i < limit :=
    fun hi hp => mul_roundings_lt_limit (by omega) (hp.trans hbound)
  have hfirst : Approximates (Float.ofNat digits) digits 1 := by
    refine (near_ofNat digits).approximates hone (by simp) (by simp) (hlimits (by omega) ?_)
    exact le_mul_of_one_le_right (by positivity) (one_le_pow₀ (by norm_num))
  have hpower := approximates_one.floatPower more approximates_ten (by norm_num)
    (hlimits (by omega) (by
      push_cast
      gcongr))
  rw [Nat.cast_one, one_mul, Nat.cast_ofNat] at hpower
  have hcount : 1 + (0 + more * (0 + 1)) + 1 = more + 2 := by ring
  have hproduct := hfirst.mul hpower (hlimits (by omega) le_rfl)
  exact ⟨_, by omega, hproduct⟩

-- By what part of it a decimal is off as a double, at most.
def tolerance (q : ℚ) : ℚ :=
  if q < 10 ^ 24 then 1 / 2 ^ 52 else 1 / 2 ^ 44

theorem tolerance_bounds (q : ℚ) : 1 / 2 ^ 52 ≤ tolerance q ∧ tolerance q ≤ 1 / 2 ^ 44 := by
  unfold tolerance
  split <;> norm_num

theorem underflow_le {q : ℚ} (hq : 1 / 10 ^ 301 ≤ q) : underflow ≤ q * roundoff := by
  have hpow : 10 ^ 301 * 2 ^ 53 ≤ 2 ^ 1075 := by decide +kernel
  calc underflow = 1 / 2 ^ (1075 : Nat) := by
        rw [underflow, show (-1075 : ℤ) = -((1075 : Nat) : ℤ) by norm_num, zpow_neg, zpow_natCast,
          one_div]
    _ ≤ 1 / (10 ^ 301 * 2 ^ 53) := by
        refine one_div_le_one_div_of_le (by positivity) ?_
        exact_mod_cast hpow
    _ = 1 / 10 ^ 301 * roundoff := by
        unfold roundoff
        field_simp
    _ ≤ q * roundoff := mul_le_mul_of_nonneg_right hq roundoff_pos.le

-- An error against what is left of the decimal is hardly larger against the decimal.
theorem abs_sub_toRat_le (h : 0 < d.digits) {v : ℚ} (units : Nat)
    (hv : |v - d.truncated| ≤ d.truncated * (units * roundoff)) :
    |v - d.toRat| ≤ d.toRat * ((units + 1) * roundoff) := by
  obtain ⟨hless, hclose⟩ := truncated_close h
  have hpos : 0 < d.toRat := toRat_pos_iff.mpr h
  have hunit := roundoff_pos
  calc |v - d.toRat| ≤ |v - d.truncated| + |d.truncated - d.toRat| := abs_sub_le ..
    _ ≤ d.truncated * (units * roundoff) + d.toRat / 10 ^ 24 := by
        gcongr
        rw [abs_sub_comm, abs_of_nonneg (sub_nonneg.mpr hless)]
        exact hclose
    _ ≤ d.toRat * (units * roundoff) + d.toRat * roundoff := by
        gcongr
        rw [div_eq_mul_inv]
        gcongr
        norm_num [roundoff]
    _ = d.toRat * ((units + 1) * roundoff) := by ring

theorem toFloat_error (h : 0 < d.digits) (hlower : 1 / 10 ^ 300 ≤ d.toRat)
    (hupper : d.toRat < 10 ^ 301) : (parts d.toFloat).isFinite = true ∧
      |value (parts d.toFloat) - d.toRat| ≤ d.toRat * tolerance d.toRat := by
  obtain ⟨hless, hclose⟩ := truncated_close h
  have hbound := le_half_limit (hless.trans_lt hupper)
  have hpos : 0 < d.toRat := toRat_pos_iff.mpr h
  by_cases hsmall : d.scale = 0 ∨ d.leading.2 < d.scale
  · have hnear := near_truncated h hsmall hupper
    have htruncated : 1 / 10 ^ 301 ≤ d.truncated := by
      calc (1 : ℚ) / 10 ^ 301 = 1 / 10 ^ 300 / 10 := by rw [pow_succ, div_div]
        _ ≤ d.toRat / 10 := by gcongr
        _ ≤ d.truncated := by linarith only [hclose, hpos]
    have hfinite := hnear.isFinite (le_trans (by positivity) htruncated) hbound
    refine ⟨hfinite, ?_⟩
    have hproper := proper_of_parts hnear.number
    have herror := hnear.rounds.error (abs_lt.mpr (hproper.isFinite_iff.mp hfinite))
    rw [abs_of_nonneg (le_trans (by positivity) htruncated),
      max_eq_left (underflow_le htruncated)] at herror
    refine (abs_sub_toRat_le h 1 (by simpa using herror)).trans ?_
    gcongr
    refine le_trans ?_ (tolerance_bounds d.toRat).1
    norm_num [roundoff]
  · rw [not_or, not_lt] at hsmall
    have hlarge := (scale_le_leading h hsmall.2).resolve_left hsmall.1
    obtain ⟨count, hcount, happroximates⟩ := approximates_truncated h hsmall.2 hupper
    refine ⟨happroximates.finite, ?_⟩
    have herror := happroximates.error (by omega)
    refine (abs_sub_toRat_le h (count + 1) (by exact_mod_cast herror)).trans ?_
    have hcast : (count : ℚ) ≤ 302 := by exact_mod_cast hcount
    rw [tolerance, if_neg hlarge.not_gt]
    gcongr
    unfold roundoff
    push_cast
    linarith

-- A decimal that is a double itself is not below its double, unless it is large.
theorem value_toFloat_le (h : 0 < d.digits) (hupper : d.toRat < 10 ^ 24)
    (hd : Rounds d.toRat d.toRat) : value (parts d.toFloat) ≤ d.toRat := by
  have hsmall : d.scale = 0 ∨ d.leading.2 < d.scale := by
    by_contra hlarge
    rw [not_or, not_lt] at hlarge
    exact ((scale_le_leading h hlarge.2).resolve_left hlarge.1).not_gt hupper
  have hmore : (10 : ℚ) ^ 24 < 10 ^ 301 := pow_lt_pow_right₀ (by norm_num) (by norm_num)
  exact (near_truncated h hsmall (hupper.trans hmore)).rounds.mono hd (truncated_close h).1

end Double

end Datacube.Number.Decimal

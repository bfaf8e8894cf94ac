import Datacube.Number.Real
import Datacube.Proofs.Number.Numeral

-- Floors of doubles, held inside the range of 64 bits, and of their quotients. The floor of a
-- quotient by a positive double is not smaller for a larger dividend.
namespace Datacube.Number

open Float.Model (UnpackedFloat)
open Float.Model.UnpackedFloat

section Floor

-- The floor of a number with a binary exponent.
def binaryFloor (digits e : ℤ) : ℤ :=
  if 0 ≤ e then digits * twoTo e.toNat else digits.fdiv (twoTo (-e).toNat)

theorem le_binaryFloor_iff {n digits e : ℤ} :
    n ≤ binaryFloor digits e ↔ (n : ℚ) ≤ digits * 2 ^ e := by
  unfold binaryFloor
  by_cases he : 0 ≤ e
  · obtain ⟨k, rfl⟩ := Int.eq_ofNat_of_zero_le he
    rw [if_pos he, zpow_natCast, ← @Int.cast_le ℚ]
    simp [twoTo]
  · obtain ⟨k, rfl⟩ : ∃ k : Nat, e = -k := ⟨(-e).toNat, by omega⟩
    have hpos : (0 : ℤ) < twoTo k := by
      simp only [twoTo, Nat.pow_eq]
      positivity
    rw [if_neg he, neg_neg, Int.toNat_natCast, Int.fdiv_eq_ediv_of_nonneg _ hpos.le,
      Int.le_ediv_iff_mul_le hpos, zpow_neg, zpow_natCast, ← div_eq_mul_inv,
      le_div_iff₀ (by positivity), ← @Int.cast_le ℚ]
    simp [twoTo]

theorem floorClamped_finite {x : Float} {s : Sign} {m : Nat} {e : ℤ} {hm : 0 < m}
    (hx : parts x = .finite s m e hm) : ∃ digits : ℤ, value (parts x) = digits * 2 ^ e ∧
      floorClamped x = max int64Min (min int64Max (binaryFloor digits e)) := by
  unfold floorClamped
  rw [hx, value]
  cases s with
  | positive => exact ⟨m, by simp [withSign], rfl⟩
  | negative => exact ⟨-m, by simp [withSign], rfl⟩

theorem intCast_lt_limit {n : ℤ} (hn : n ≤ int64Max) : (n : ℚ) < limit := by
  calc (n : ℚ) ≤ (int64Max : ℤ) := by exact_mod_cast hn
    _ < 2 ^ (63 : ℤ) := by norm_num [int64Max]
    _ ≤ limit := two_zpow_le (by norm_num)

-- The floor, as long as it is in range.
theorem le_floorClamped_iff {x : Float} {n : ℤ} (hx : parts x ≠ .notANumber)
    (hlow : int64Min < n) (hhigh : n ≤ int64Max) :
    n ≤ floorClamped x ↔ (n : ℚ) ≤ value (parts x) := by
  have habove := intCast_lt_limit hhigh
  have hbelow : -limit < (n : ℚ) := by
    calc -limit ≤ -2 ^ (63 : ℤ) := neg_le_neg (two_zpow_le (by norm_num))
      _ = (int64Min : ℤ) := by norm_num [int64Min]
      _ < n := by exact_mod_cast hlow
  cases hparts : parts x with
  | notANumber => exact absurd hparts hx
  | zero s => simp [floorClamped, hparts, value]
  | infinity s =>
      unfold floorClamped
      rw [hparts]
      cases s with
      | positive => exact iff_of_true hhigh habove.le
      | negative => exact iff_of_false (not_le.mpr hlow) (not_le.mpr hbelow)
  | finite s m e hm =>
      obtain ⟨digits, hvalue, hfloor⟩ := floorClamped_finite hparts
      rw [hfloor, ← hparts, hvalue, ← le_binaryFloor_iff]
      omega

-- What passes the guard in front of a division.
inductive Divisor (r : Float) : Prop where
  | notANumber (h : parts r = .notANumber)
  | infinity (h : parts r = .infinity .positive)
  | finite (m : Nat) (e : ℤ) (hm : 0 < m) (h : parts r = .finite .positive m e hm)

theorem parts_zero : parts 0 = .zero .positive := rfl

theorem le_zero_iff {r : Float} (hr : parts r ≠ .notANumber) : r ≤ 0 ↔ value (parts r) ≤ 0 := by
  have hzero : parts 0 ≠ .notANumber := by
    rw [parts_zero]
    exact UnpackedFloat.noConfusion
  rw [le_iff_value hr hzero]
  rfl

theorem not_le_zero_iff {r : Float} (hr : parts r ≠ .notANumber) :
    ¬r ≤ 0 ↔ 0 < value (parts r) := by
  rw [le_zero_iff hr, not_le]

theorem divisor_of_not_le {r : Float} (hr : ¬r ≤ 0) : Divisor r := by
  by_cases hnumber : parts r = .notANumber
  · exact .notANumber hnumber
  rw [not_le_zero_iff hnumber] at hr
  cases hparts : parts r with
  | notANumber => exact .notANumber hparts
  | zero s =>
      rw [hparts] at hr
      exact absurd hr (lt_irrefl 0)
  | infinity s =>
      cases s with
      | positive => exact .infinity hparts
      | negative =>
          rw [hparts] at hr
          exact absurd hr (neg_lt_zero.mpr limit_pos).not_gt
  | finite s m e hm =>
      cases s with
      | positive => exact .finite m e hm hparts
      | negative =>
          rw [hparts] at hr
          have hpos := (canonical_of_parts hparts).value_pos
          exact absurd hr (neg_lt_zero.mpr hpos).not_gt

theorem floorClamped_eq_zero {x : Float} (hx : parts x = .notANumber ∨ ∃ s, parts x = .zero s) :
    floorClamped x = 0 := by
  unfold floorClamped
  rcases hx with h | ⟨s, h⟩
  · rw [h]
  · rw [h]

theorem near_difference {x y : Float} (hx : x.isFinite = true) (hy : y.isFinite = true) :
    Near (value (parts x) - value (parts y)) (parts (x - y)) := by
  rw [parts_sub]
  exact near_sub (proper_of_parts (ne_notANumber_of_isFinite hx))
    (proper_of_parts (ne_notANumber_of_isFinite hy)) hx hy

theorem value_sub_nonneg {x y : Float} (hx : x.isFinite = true) (hy : y.isFinite = true)
    (hle : value (parts y) ≤ value (parts x)) : 0 ≤ value (parts (x - y)) :=
  (near_difference hx hy).rounds.nonneg (sub_nonneg.mpr hle)

theorem parts_sub_self {x : Float} (hx : x.isFinite = true) : ∃ s, parts (x - x) = .zero s := by
  have hnear := near_difference hx hx
  rw [sub_self, ← Int.cast_zero] at hnear
  have hvalue := hnear.value_intCast (by norm_num)
  have hfinite := isFinite_of_intCast hnear.number (by norm_num) hvalue
  cases hparts : parts (x - x) with
  | notANumber | infinity s =>
      rw [hparts] at hfinite
      exact absurd hfinite Bool.false_ne_true
  | zero s => exact ⟨s, rfl⟩
  | finite s m e hm =>
      have hpos := (canonical_of_parts hparts).value_pos
      rw [hparts, value, Int.cast_zero] at hvalue
      cases s <;> simp only [withSign] at hvalue <;> linarith

theorem floorClamped_zero_div {x r : Float} {s : Sign} (hx : parts x = .zero s) (hr : ¬r ≤ 0) :
    floorClamped (x / r) = 0 := by
  apply floorClamped_eq_zero
  rw [parts_div, hx]
  cases divisor_of_not_le hr with
  | notANumber h =>
      rw [h]
      exact .inl stored_notANumber
  | infinity h | finite m e hm h =>
      rw [h]
      exact .inr ⟨_, stored_zero _⟩

theorem floorClamped_div_infinite {x r : Float}
    (hr : parts r = .notANumber ∨ parts r = .infinity .positive) : floorClamped (x / r) = 0 := by
  apply floorClamped_eq_zero
  rw [parts_div]
  rcases hr with h | h
  · rw [h]
    cases parts x <;> exact .inl stored_notANumber
  · rw [h]
    cases parts x with
    | notANumber | infinity s => exact .inl stored_notANumber
    | zero s | finite s m e hm => exact .inr ⟨_, stored_zero _⟩

theorem sub_notANumber {x y : Float} (hx : parts x = .notANumber) :
    parts (x - y) = .notANumber := by
  rw [parts_sub, hx]
  cases parts y <;> exact stored_notANumber

theorem floorClamped_div_notANumber {x r : Float} (hx : parts x = .notANumber) :
    floorClamped (x / r) = 0 := by
  apply floorClamped_eq_zero
  rw [parts_div, hx]
  cases parts r <;> exact .inl stored_notANumber

-- What fits in exactly is not lost by rounding the quotient.
theorem le_floorClamped_div {x r : Float} {k : Nat} (hk : k < 2 ^ 53) (hx : parts x ≠ .notANumber)
    (hr : ¬r ≤ 0) (hfinite : (parts r).isFinite = true)
    (hmul : k * value (parts r) ≤ value (parts x)) : (k : ℤ) ≤ floorClamped (x / r) := by
  have hlow : int64Min < (k : ℤ) := by
    unfold int64Min
    omega
  have hhigh : (k : ℤ) ≤ int64Max := by
    unfold int64Max
    omega
  have hpos := (not_le_zero_iff (ne_notANumber_of_isFinite hfinite)).mp hr
  obtain ⟨s, hs⟩ | ⟨hxfin, -⟩ := (proper_of_parts hx).infinite_or_within
  · have hquotient : parts (x / r) = .infinity .positive := by
      cases s with
      | positive =>
          rw [parts_div, hs]
          cases divisor_of_not_le hr with
          | notANumber h | infinity h => rw [h] at hfinite; exact absurd hfinite Bool.false_ne_true
          | finite m e hm h => rw [h]; exact stored_infinity .positive
      | negative =>
          have hproduct : 0 ≤ k * value (parts r) := mul_nonneg k.cast_nonneg hpos.le
          rw [hs, value, withSign] at hmul
          linarith [limit_pos]
    rw [le_floorClamped_iff (by rw [hquotient]; exact UnpackedFloat.noConfusion) hlow hhigh,
      hquotient, Int.cast_natCast]
    exact (natCast_lt_limit hk).le
  · have hnear := near_div hxfin hfinite hpos.ne'
    rw [← parts_div] at hnear
    rw [le_floorClamped_iff hnear.number hlow hhigh, Int.cast_natCast]
    exact (rounds_natCast hk).mono hnear.rounds ((le_div_iff₀ hpos).mpr hmul)

theorem floorClamped_div_nonneg {x r : Float} (hx : parts x ≠ .notANumber)
    (hnonneg : 0 ≤ value (parts x)) (hr : ¬r ≤ 0) : 0 ≤ floorClamped (x / r) := by
  cases divisor_of_not_le hr with
  | notANumber h => exact (floorClamped_div_infinite (.inl h)).ge
  | infinity h => exact (floorClamped_div_infinite (.inr h)).ge
  | finite m e hm h =>
      have hfinite : (parts r).isFinite = true := by
        rw [h]
        rfl
      exact le_floorClamped_div (k := 0) (by norm_num) hx hr hfinite (by simpa using hnonneg)

-- What is out of range is held at one of its ends.
theorem floorClamped_mem (x : Float) : int64Min ≤ floorClamped x ∧ floorClamped x ≤ int64Max := by
  have hzero : int64Min ≤ 0 ∧ 0 ≤ int64Max := by decide
  cases hx : parts x with
  | notANumber => exact (floorClamped_eq_zero (.inl hx)).symm ▸ hzero
  | zero s => exact (floorClamped_eq_zero (.inr ⟨s, hx⟩)).symm ▸ hzero
  | infinity s =>
      unfold floorClamped
      rw [hx]
      cases s <;> decide
  | finite s m e hm =>
      obtain ⟨digits, -, hfloor⟩ := floorClamped_finite hx
      have hrange : int64Min ≤ int64Max := by decide
      rw [hfloor]
      omega

theorem floorClamped_mono {x y : Float} (hx : parts x ≠ .notANumber) (hy : parts y ≠ .notANumber)
    (hle : value (parts x) ≤ value (parts y)) : floorClamped x ≤ floorClamped y := by
  by_cases hlow : int64Min < floorClamped x
  · have hhigh := (floorClamped_mem x).2
    rw [le_floorClamped_iff hy hlow hhigh]
    exact ((le_floorClamped_iff hx hlow hhigh).mp le_rfl).trans hle
  · exact (not_lt.mp hlow).trans (floorClamped_mem y).1

theorem follows_div {r : Float} {m : Nat} {e : ℤ} {hm : 0 < m}
    (hr : parts r = .finite .positive m e hm) : Follows (· / r) (· / value (parts r)) where
  infinite x s hs := by
    rw [parts_div, hs, hr]
    cases s <;> exact stored_infinity _
  finite x hx := by
    rw [parts_div]
    have hpos := (canonical_of_parts hr).value_pos
    exact near_div hx (by rw [hr]; rfl) (by rw [hr]; exact hpos.ne')

theorem floorClamped_div_mono {x y r : Float} (hr : ¬r ≤ 0) (hx : parts x ≠ .notANumber)
    (hy : parts y ≠ .notANumber) (hle : value (parts x) ≤ value (parts y)) :
    floorClamped (x / r) ≤ floorClamped (y / r) := by
  cases divisor_of_not_le hr with
  | notANumber h => rw [floorClamped_div_infinite (.inl h), floorClamped_div_infinite (.inl h)]
  | infinity h => rw [floorClamped_div_infinite (.inr h), floorClamped_div_infinite (.inr h)]
  | finite m e hm h =>
      have hdiv := follows_div h
      have hpos : 0 ≤ value (parts r) := by
        rw [h]
        exact (canonical_of_parts h).value_pos.le
      refine floorClamped_mono (hdiv.number hx) (hdiv.number hy) (hdiv.mono ?_ hx hy hle)
      exact fun a b hab => div_le_div_of_nonneg_right hab hpos

end Floor

end Datacube.Number

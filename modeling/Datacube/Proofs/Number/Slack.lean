import Datacube.Proofs.Number.Error

-- The floor of a quotient of doubles that stand for a distance and for the size of a cell. It is
-- the floor of the exact quotient, unless that is too close to a whole number.
namespace Datacube.Number

section Difference

variable {x y : Float} {p q : ℚ}

theorem Near.error (h : Near p (parts x)) (hfinite : (parts x).isFinite = true) :
    |value (parts x) - p| ≤ |p| * roundoff + underflow := by
  have hwithin := (proper_of_parts h.number).isFinite_iff.mp hfinite
  exact (h.rounds.error (abs_lt.mpr hwithin)).trans (max_underflow_le (abs_nonneg p))

-- A number that is not small is hardly changed.
theorem Near.abs_value_le (h : Near p (parts x)) (hfinite : (parts x).isFinite = true) {bound : ℚ}
    (hbound : 1 ≤ bound) (hle : |p| ≤ bound) : |value (parts x)| ≤ 2 * bound := by
  have herror := h.error hfinite
  have htriangle := abs_sub_abs_le_abs_sub (value (parts x)) p
  have htiny := underflow_le_roundoff
  unfold roundoff at *
  linarith

-- Three numbers are rounded: the two that are subtracted and their difference.
theorem sub_error (hx : Near p (parts x)) (hy : Near q (parts y))
    (hxfinite : (parts x).isFinite = true) (hyfinite : (parts y).isFinite = true)
    (hfinite : (parts (x - y)).isFinite = true) :
    |value (parts (x - y)) - (p - q)| ≤ 9 / 4 * ((|p| + |q|) * roundoff) + 4 * underflow := by
  obtain ⟨hxlower, hxupper⟩ := abs_le.mp (hx.error hxfinite)
  obtain ⟨hylower, hyupper⟩ := abs_le.mp (hy.error hyfinite)
  obtain ⟨hlower, hupper⟩ := abs_le.mp ((near_difference hxfinite hyfinite).error hfinite)
  have hsize : |value (parts x) - value (parts y)| ≤
      (|p| + |q|) * (1 + roundoff) + 2 * underflow := by
    obtain ⟨hplower, hpupper⟩ := abs_le.mp (le_refl |p|)
    obtain ⟨hqlower, hqupper⟩ := abs_le.mp (le_refl |q|)
    rw [abs_le]
    constructor <;> linarith
  have hnonneg : 0 ≤ |p| + |q| := by positivity
  have htiny := underflow_pos
  generalize underflow = tiny at *
  unfold roundoff at *
  rw [abs_le]
  constructor <;> linarith

end Difference

section Quotient

variable {w r : Float} {distance bound size part : ℚ} {k : ℤ}

-- A double that stands for a distance between two places, which lie within a bound, and one that
-- stands for the size of a cell and is off by a small part of it.
structure Divides (w r : Float) (distance bound size part : ℚ) : Prop where
  dividend_finite : (parts w).isFinite = true
  dividend_nonneg : 0 ≤ value (parts w)
  dividend : |value (parts w) - distance| ≤ 9 / 4 * (bound * roundoff) + 4 * underflow
  divisor_finite : (parts r).isFinite = true
  divisor : |value (parts r) - size| ≤ size * part
  nonneg : 0 ≤ distance
  le_bound : distance ≤ bound
  pos : 0 < size
  underflow_le : underflow ≤ size * roundoff
  le_part : 2 * roundoff ≤ part
  part_le : part ≤ 1 / 2 ^ 44

namespace Divides

variable (h : Divides w r distance bound size part)

include h

theorem part_nonneg : 0 ≤ part := by
  have hunit := roundoff_pos
  have hpart := h.le_part
  linarith

theorem bound_nonneg : 0 ≤ bound :=
  h.nonneg.trans h.le_bound

theorem slack_nonneg : 0 ≤ 4 * part * (size + bound) :=
  mul_nonneg (mul_nonneg zero_le_four h.part_nonneg) (add_nonneg h.pos.le h.bound_nonneg)

theorem divisor_pos : 0 < value (parts r) := by
  have hlower := (abs_le.mp h.divisor).1
  have hpart := mul_le_mul_of_nonneg_left h.part_le h.pos.le
  have hpos := h.pos
  linarith

theorem not_le_zero : ¬r ≤ 0 :=
  (not_le_zero_iff (ne_notANumber_of_isFinite h.divisor_finite)).mpr h.divisor_pos

theorem quotient_nonneg : 0 ≤ value (parts w) / value (parts r) :=
  div_nonneg h.dividend_nonneg h.divisor_pos.le

theorem near : Near (value (parts w) / value (parts r)) (parts (w / r)) := by
  rw [parts_div]
  exact near_div h.dividend_finite h.divisor_finite h.divisor_pos.ne'

-- The errors of single doubles are small parts of the slack.
theorem bound_roundoff_le : bound * roundoff ≤ bound * part / 2 := by
  calc bound * roundoff ≤ bound * (part / 2) :=
        mul_le_mul_of_nonneg_left (by linarith [h.le_part]) h.bound_nonneg
    _ = bound * part / 2 := by ring

theorem size_roundoff_le : size * roundoff ≤ size * part / 2 := by
  calc size * roundoff ≤ size * (part / 2) :=
        mul_le_mul_of_nonneg_left (by linarith [h.le_part]) h.pos.le
    _ = size * part / 2 := by ring

-- What the rounding of the quotient leaves of a bound on it.
theorem dividend_lt (hk : k ≤ int64Max) (hless : value (parts (w / r)) < k) :
    value (parts w) * (1 - roundoff) < (k + underflow) * value (parts r) := by
  have hclose := h.near.rounds.le_of_lt_limit h.quotient_nonneg (hless.trans (intCast_lt_limit hk))
  have herror := max_underflow_le h.quotient_nonneg
  rw [← div_lt_iff₀ h.divisor_pos, mul_div_right_comm]
  linarith

theorem le_dividend (hle : k ≤ value (parts (w / r))) :
    (k - underflow) * value (parts r) ≤ value (parts w) * (1 + roundoff) := by
  have hclose := h.near.rounds.le h.quotient_nonneg
  have herror := max_underflow_le h.quotient_nonneg
  rw [← le_div_iff₀ h.divisor_pos, mul_div_right_comm]
  linarith

-- A whole number that lies far enough below the exact quotient is not above the floor.
theorem le_floor (hk : 0 < k) (hmax : k ≤ int64Max)
    (hle : k * size ≤ distance - 4 * part * (size + bound)) : k ≤ floorClamped (w / r) := by
  rw [le_floorClamped_iff h.near.number (by unfold int64Min; omega) hmax]
  by_contra hless
  rw [not_le] at hless
  have hbelow := h.dividend_lt hmax hless
  have hproduct : (k + underflow) * value (parts r) ≤ (k + underflow) * (size + size * part) := by
    have hcount : (0 : ℚ) < k := by exact_mod_cast hk
    have hdivisor := (abs_le.mp h.divisor).2
    exact mul_le_mul_of_nonneg_left (by linarith) (add_pos hcount underflow_pos).le
  have hunderflow : underflow * (size + size * part) ≤ roundoff * (size + size * part) :=
    mul_le_mul_of_nonneg_right underflow_le_roundoff
      (add_nonneg h.pos.le (mul_nonneg h.pos.le h.part_nonneg))
  have hcells : k * size * part ≤ bound * part :=
    mul_le_mul_of_nonneg_right (by linarith [h.slack_nonneg, h.le_bound]) h.part_nonneg
  have hsize := mul_le_mul_of_nonneg_left h.part_le h.pos.le
  obtain ⟨hlower, hupper⟩ := abs_le.mp h.dividend
  have hboundoff := h.bound_roundoff_le
  have hsizeoff := h.size_roundoff_le
  have hsmall := h.underflow_le
  have hinside := h.le_bound
  have hpos := h.pos
  have hnonneg := h.nonneg
  generalize underflow = tiny at *
  generalize value (parts w) = dividend at *
  unfold roundoff at *
  linarith

-- A whole number that is not above the floor does not lie far above the exact quotient.
theorem floor_le (hk : 0 < k) (hmax : k ≤ int64Max) (hfloor : k ≤ floorClamped (w / r)) :
    k * size ≤ distance + 4 * part * (size + bound) := by
  rw [le_floorClamped_iff h.near.number (by unfold int64Min; omega) hmax] at hfloor
  by_contra hgreater
  rw [not_le] at hgreater
  have habove := h.le_dividend hfloor
  have hpart : 0 ≤ 1 - part := by linarith [h.part_le]
  have hproduct : (k - underflow) * (size * (1 - part)) ≤ (k - underflow) * value (parts r) := by
    have hcount : (1 : ℚ) ≤ k := by exact_mod_cast hk
    have hdivisor := (abs_le.mp h.divisor).1
    refine mul_le_mul_of_nonneg_left (by linarith) ?_
    linarith [underflow_le_roundoff, roundoff_lt_one]
  have hunderflow : underflow * (size * (1 - part)) ≤ roundoff * (size * (1 - part)) :=
    mul_le_mul_of_nonneg_right underflow_le_roundoff (mul_nonneg h.pos.le hpart)
  have hcells := mul_le_mul_of_nonneg_right hgreater.le hpart
  have hslack := mul_le_mul_of_nonneg_left h.part_le h.slack_nonneg
  have hdistance := mul_le_mul_of_nonneg_right h.le_bound h.part_nonneg
  obtain ⟨hlower, hupper⟩ := abs_le.mp h.dividend
  have hboundoff := h.bound_roundoff_le
  have hsizeoff := h.size_roundoff_le
  have hsmall := h.underflow_le
  have hinside := h.le_bound
  have hpos := h.pos
  have hnonneg := h.nonneg
  generalize underflow = tiny at *
  generalize value (parts w) = dividend at *
  unfold roundoff at *
  linarith

theorem floor_nonneg : 0 ≤ floorClamped (w / r) := by
  exact floorClamped_div_nonneg (ne_notANumber_of_isFinite h.dividend_finite) h.dividend_nonneg
    h.not_le_zero

-- The floor of the quotient of the doubles lies between those of the exact quotient with the slack
-- taken off and put on, as far as the range of 64 bits reaches.
theorem min_floor_le :
    min ⌊(distance - 4 * part * (size + bound)) / size⌋ int64Max ≤ floorClamped (w / r) := by
  rcases le_or_gt (min ⌊(distance - 4 * part * (size + bound)) / size⌋ int64Max) 0 with hk | hk
  · exact hk.trans h.floor_nonneg
  · refine h.le_floor hk (min_le_right _ _) ?_
    rw [← le_div_iff₀ h.pos]
    exact (Int.cast_le.mpr (min_le_left _ _)).trans (Int.floor_le _)

theorem le_floor_add : floorClamped (w / r) ≤ ⌊(distance + 4 * part * (size + bound)) / size⌋ := by
  rw [Int.le_floor, le_div_iff₀ h.pos]
  rcases h.floor_nonneg.eq_or_lt with hzero | hpos
  · rw [← hzero, Int.cast_zero, zero_mul]
    exact add_nonneg h.nonneg h.slack_nonneg
  · exact h.floor_le hpos (floorClamped_mem _).2 le_rfl

end Divides

end Quotient

end Datacube.Number

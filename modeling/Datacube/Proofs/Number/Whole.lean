import Datacube.Proofs.Number.Leading

-- Whole numbers as doubles. Their decimals have no fraction, and although the quotient of two of
-- them is rounded, its floor is the exact one.
namespace Datacube.Number

section Shortest

variable {i : Interval} {m n : Nat} {e t : ℤ}

-- A grid that the value lies on has a point inside.
theorem Interval.gridPoint_isSome (hlower : i.lower < i.value) (hupper : i.value < i.upper)
    (hn : (n * 10 ^ t : ℚ) = i.value * 2 ^ i.exponent) : (i.gridPoint t).isSome = true := by
  obtain ⟨hp, hq⟩ := gridFactors_pos t i.exponent
  have hexact : n * (gridFactors t i.exponent).1 = i.value * (gridFactors t i.exponent).2 :=
    le_antisymm (gridFactors_le_iff.mpr hn.le) (le_gridFactors_iff.mpr hn.ge)
  have hbelow : i.value * (gridFactors t i.exponent).2 / (gridFactors t i.exponent).1 = n := by
    rw [← hexact, Nat.mul_div_cancel _ hp]
  have hleft : i.lower * (gridFactors t i.exponent).2 < n * (gridFactors t i.exponent).1 := by
    rw [hexact]
    exact Nat.mul_lt_mul_of_pos_right hlower hq
  have hright : n * (gridFactors t i.exponent).1 < i.upper * (gridFactors t i.exponent).2 := by
    rw [hexact]
    exact Nat.mul_lt_mul_of_pos_right hupper hq
  unfold Interval.gridPoint
  simp only [hbelow, hleft, hright, hleft.le, hright.le, decide_true, Bool.and_self, ite_self]
  split <;> simp_all

-- The search stops at the grid of the whole numbers, if not before.
theorem Interval.firstGrid_exponent (hwhole : (i.gridPoint 0).isSome = true) (count : Nat)
    (ht : 0 ≤ t) (hcount : t < count) : 0 ≤ (i.firstGrid count t).exponent := by
  induction count generalizing t with
  | zero =>
      push_cast at hcount
      omega
  | succ count ih =>
      unfold Interval.firstGrid
      split
      · exact ht
      · next hnone =>
        have hne : t ≠ 0 := by
          rintro rfl
          rw [hnone] at hwhole
          exact absurd hwhole Bool.false_ne_true
        push_cast at hcount
        exact ih (by omega) (by omega)

theorem exponent_nonpos_of_whole (h : Canonical m e) (hn : n < 2 ^ 53)
    (hvalue : (m : ℚ) * 2 ^ e = n) : e ≤ 0 := by
  by_contra hpos
  have hleading : (2 : ℚ) ^ 52 ≤ m := by exact_mod_cast h.normal (by omega)
  have htwo : (2 : ℚ) ^ (1 : ℤ) ≤ 2 ^ e := two_zpow_le (by omega)
  have hlt : (n : ℚ) < 2 ^ 53 := by exact_mod_cast hn
  have hge : (2 : ℚ) ^ 52 * 2 ^ (1 : ℤ) ≤ m * 2 ^ e := by gcongr
  rw [hvalue] at hge
  norm_num at hge hlt
  linarith

-- The leading bit of a whole number.
theorem leading_of_whole (h : Canonical m e) (hn : n < 2 ^ 53) (hvalue : (m : ℚ) * 2 ^ e = n) :
    0 ≤ (m.log2 : ℤ) + e ∧ (m.log2 : ℤ) + e < 53 := by
  have hpos : (0 : ℚ) < 2 ^ e := by positivity
  have hone : (1 : ℚ) ≤ n := by
    have hnat : (0 : ℚ) < n := hvalue ▸ h.value_pos
    exact_mod_cast hnat
  have hlower : (2 : ℚ) ^ m.log2 ≤ m := by exact_mod_cast Nat.log2_self_le h.pos.ne'
  have hupper : (m : ℚ) < 2 ^ (m.log2 + 1) := by exact_mod_cast Nat.lt_log2_self
  constructor
  · have hlt : (2 : ℚ) ^ (0 : ℤ) < 2 ^ (e + (m.log2 + 1 : Nat)) := by
      rw [two_zpow_add, zpow_zero]
      calc (1 : ℚ) ≤ m * 2 ^ e := hvalue ▸ hone
        _ < 2 ^ (m.log2 + 1) * 2 ^ e := by gcongr
    rw [zpow_lt_zpow_iff_right₀ one_lt_two] at hlt
    push_cast at hlt
    omega
  · have hlt : (2 : ℚ) ^ (e + (m.log2 : Nat)) < 2 ^ (53 : ℤ) := by
      rw [two_zpow_add]
      calc (2 : ℚ) ^ m.log2 * 2 ^ e ≤ m * 2 ^ e := by gcongr
        _ = n := hvalue
        _ < 2 ^ (53 : ℤ) := by exact_mod_cast hn
    rw [zpow_lt_zpow_iff_right₀ one_lt_two] at hlt
    omega

theorem shortest_exponent_nonneg (h : Canonical m e) (hn : n < 2 ^ 53)
    (hvalue : (m : ℚ) * 2 ^ e = n) : 0 ≤ (shortest m e).exponent := by
  obtain ⟨hlow, hhigh⟩ := leading_of_whole h hn hvalue
  obtain ⟨hlower, hupper⟩ := roundingInterval_value h.pos e
  have hunit : (4 * m : ℚ) * 2 ^ (e - 2) = n := by
    rw [zpow_sub₀ two_ne_zero, ← hvalue]
    ring
  have hwhole : ((roundingInterval m e).gridPoint 0).isSome = true := by
    refine Interval.gridPoint_isSome (n := n) hlower hupper ?_
    simp only [roundingInterval, zpow_zero, mul_one]
    push_cast
    exact hunit.symm
  exact Interval.firstGrid_exponent hwhole 20 (by omega) (by omega)

-- The shortest decimal of a whole number is the number itself: no other whole number is so near.
theorem shortest_natCast (h : Canonical m e) (hn : n < 2 ^ 53) (hvalue : (m : ℚ) * 2 ^ e = n) :
    (shortest m e).toRat = n := by
  obtain ⟨k, hk⟩ : ∃ k : ℤ, (shortest m e).toRat = k := by
    refine ⟨(shortest m e).digits * 10 ^ (shortest m e).exponent.toNat, ?_⟩
    rw [Scientific.toRat]
    push_cast
    rw [← zpow_natCast, Int.toNat_of_nonneg (shortest_exponent_nonneg h hn hvalue)]
  have hpos : (0 : ℚ) < 2 ^ e := by positivity
  have hsmall : (2 : ℚ) ^ e ≤ 1 := zpow_le_one_of_nonpos₀ one_le_two
    (exponent_nonpos_of_whole h hn hvalue)
  have haround := around_of_contains h.pos (shortest_contains h)
  have hlower := haround.lower
  have hupper := haround.upper
  rw [le_div_iff₀ hpos, hk] at hlower
  rw [div_le_iff₀ hpos, hk] at hupper
  have hlt : (n : ℚ) < ((k + 1 : ℤ) : ℚ) := by
    rw [← hvalue]
    push_cast
    linarith
  have hgt : (k : ℚ) < ((n + 1 : ℤ) : ℚ) := by
    push_cast
    rw [← hvalue]
    linarith
  have hlt : (n : ℤ) < k + 1 := by exact_mod_cast hlt
  have hgt : k < n + 1 := by exact_mod_cast hgt
  rw [hk, show k = n by omega, Int.cast_natCast]

end Shortest

namespace Decimal

theorem toRat_whole (n : ℤ) : (⟨n, 0⟩ : Decimal).toRat = n := by
  simp [toRat]

-- The decimal of a whole number has no places behind the point.
theorem eq_whole {x : Float} {d : Decimal} {n : ℤ} (hd : ofFloat x = some d)
    (hn : n.natAbs < 2 ^ 53) (hx : value (parts x) = n) : d = ⟨n, 0⟩ := by
  obtain ⟨hscale, hvalue⟩ : d.scale = 0 ∧ d.toRat = n := by
    unfold ofFloat at hd
    split at hd
    · next s m e hm hparts =>
      obtain rfl := Option.some.inj hd
      have habs : (m : ℚ) * 2 ^ e = n.natAbs := by
        rw [hparts, value] at hx
        rw [Nat.cast_natAbs, Int.cast_abs, ← hx]
        have hpos := (canonical_of_parts hparts).value_pos
        cases s with
        | positive => exact (abs_of_pos hpos).symm
        | negative => exact ((abs_neg _).trans (abs_of_pos hpos)).symm
      have hexponent := shortest_exponent_nonneg (canonical_of_parts hparts) hn habs
      refine ⟨Int.toNat_of_nonpos (by omega), ?_⟩
      rw [toRat_ofScientific, shortest_natCast (canonical_of_parts hparts) hn habs, ← habs, ← hx,
        hparts]
      cases s <;> rfl
    · next s hparts =>
      obtain rfl := Option.some.inj hd
      rw [hparts, value] at hx
      exact ⟨rfl, by simpa [toRat] using hx⟩
    · cases hd
  obtain ⟨digits, scale⟩ := d
  obtain rfl : scale = 0 := hscale
  have hdigits : digits = n := by
    rw [toRat_whole] at hvalue
    exact_mod_cast hvalue
  rw [hdigits]

theorem sub_whole (a b : ℤ) : (⟨a, 0⟩ : Decimal).sub ⟨b, 0⟩ = ⟨a - b, 0⟩ := by
  simp [sub, digitsAt, tenTo]

-- A whole number is the double it is turned into.
theorem toFloat_whole {n : Nat} (hn : n < 2 ^ 53) :
    parts (⟨n, 0⟩ : Decimal).toFloat ≠ .notANumber ∧
      value (parts (⟨n, 0⟩ : Decimal).toFloat) = n := by
  have heq : (⟨n, 0⟩ : Decimal).toFloat = Float.ofNat n * floatPower 1.0 10.0 0 := by
    simp [toFloat]
  have hdigits : Near (n : ℤ) (parts (Float.ofNat n)) := near_ofNat n
  have hvalue := hdigits.value_intCast hn
  have hnear := near_mul_one hdigits (isFinite_of_intCast (n := n) hdigits.number hn hvalue)
  rw [← heq] at hnear
  exact ⟨hnear.number, hnear.value_intCast hn⟩

-- Nothing is nothing at every scale.
theorem toFloat_zero (scale : Nat) : parts (⟨0, scale⟩ : Decimal).toFloat ≠ .notANumber ∧
    value (parts (⟨0, scale⟩ : Decimal).toFloat) = 0 := by
  by_cases hscale : scale = 0
  · subst hscale
    exact_mod_cast toFloat_whole (n := 0) (by norm_num)
  · have hlead : leadingDigits 0 = (0, 0) := by decide
    have heq : (⟨0, scale⟩ : Decimal).toFloat = Float.ofScientific 0 true scale := by
      simp [toFloat, hscale, hlead]
    have hnear := near_ofScientific 0 true scale
    rw [Nat.cast_zero, zero_mul, ← heq, ← Int.cast_zero] at hnear
    exact ⟨hnear.number, by simpa using hnear.value_intCast (by norm_num)⟩

theorem divUp_zero (scale count : Nat) : (⟨0, scale⟩ : Decimal).divUp count = ⟨0, scale⟩ := by
  simp [divUp]

-- A whole number that is divided up stays one, and is not larger than before.
theorem divUp_whole {n count : Nat} (hn : 0 < n) (hcount : 0 < count) :
    ∃ r : Nat, (⟨n, 0⟩ : Decimal).divUp count = ⟨r, 0⟩ ∧ 0 < r ∧ r ≤ n := by
  refine ⟨n / count + if n % count = 0 then 0 else 1, ?_, ?_, ?_⟩
  · have hquotient : (n : ℤ).tdiv count = (n / count : Nat) := rfl
    have hrest : (n : ℤ).tmod count = (n % count : Nat) := rfl
    simp only [divUp, hquotient, hrest, Int.natCast_eq_zero]
    push_cast
    rfl
  · by_cases hrest : n % count = 0
    · rw [if_pos hrest, Nat.add_zero]
      exact Nat.div_pos (Nat.le_of_dvd hn (Nat.dvd_of_mod_eq_zero hrest)) hcount
    · rw [if_neg hrest]
      exact Nat.succ_pos _
  · by_cases hrest : n % count = 0
    · rw [if_pos hrest, Nat.add_zero]
      exact Nat.div_le_self n count
    · have hmany : 1 < count := by
        by_contra hone
        obtain rfl : count = 1 := by omega
        exact hrest (Nat.mod_one n)
      rw [if_neg hrest]
      exact Nat.div_lt_self hn hmany

end Decimal

section Quotient

-- A quotient of whole numbers is not rounded up to a whole number.
theorem Rounded.mul_le {n d k : Nat} {v : ℚ} (hn : n < 2 ^ 53) (hd : 0 < d) (hle : d ≤ n)
    (hv : Rounded (n / d) v) (hk : (k : ℚ) ≤ v) : k * d ≤ n := by
  by_contra hgt
  have hpos : (0 : ℚ) < d := by exact_mod_cast hd
  have hgap : (n : ℚ) / d + 1 / d ≤ k := by
    rw [← add_div, div_le_iff₀ hpos]
    exact_mod_cast not_le.mp hgt
  obtain ⟨e, i, hgrid, hnearest, rfl⟩ := hv
  have hunit : (0 : ℚ) < 2 ^ e := by positivity
  -- The gap is not wider than half a unit of the grid, which is a small part of the quotient.
  have hhalf : 1 / d ≤ 2 ^ e / (2 : ℚ) := by
    have hlower := mul_le_mul_of_nonneg_right hnearest.lower hunit.le
    rw [div_mul_cancel₀ _ hunit.ne'] at hlower
    linarith
  have hwide : 2 ^ e / (2 : ℚ) < 1 / d := by
    by_cases hnormal : -1074 < e
    · have hleading : (2 : ℚ) ^ 52 * 2 ^ e ≤ n / d := by
        rw [← two_zpow_add]
        exact hgrid.normal hnormal
      have hlt : (n : ℚ) / d < 2 ^ 53 / d := by
        gcongr
        exact_mod_cast hn
      calc 2 ^ e / (2 : ℚ) = 2 ^ 52 * 2 ^ e / 2 ^ 53 := by ring
        _ < 2 ^ 53 / d / 2 ^ 53 := by
            gcongr
            linarith
        _ = 1 / d := by field_simp
    · have hleast : e = -1074 := le_antisymm (not_lt.mp hnormal) hgrid.least
      have hsmall : (d : ℚ) < 2 ^ 53 := by exact_mod_cast hle.trans_lt hn
      have htiny : (2 : ℚ) ^ (-1074 : ℤ) ≤ 2 ^ (-53 : ℤ) := two_zpow_le (by norm_num)
      rw [hleast, div_lt_div_iff₀ two_pos hpos]
      calc (2 : ℚ) ^ (-1074 : ℤ) * d < 2 ^ (-53 : ℤ) * 2 ^ 53 :=
            mul_lt_mul' htiny hsmall hpos.le (by positivity)
        _ = 1 := by norm_num
        _ < 1 * 2 := by norm_num
  linarith

-- The floor of the rounded quotient is the floor of the exact one.
theorem le_floorClamped_div_iff {x y : Float} {n d k : Nat} (hn : n < 2 ^ 53) (hd : 0 < d)
    (hle : d ≤ n) (hx : (parts x).isFinite = true) (hxn : value (parts x) = n)
    (hy : (parts y).isFinite = true) (hyd : value (parts y) = d) :
    (k : ℤ) ≤ floorClamped (x / y) ↔ k * d ≤ n := by
  have hpos : (0 : ℚ) < d := by exact_mod_cast hd
  have hnear := near_div hx hy (by rw [hyd]; exact hpos.ne')
  rw [hxn, hyd, ← parts_div] at hnear
  have hsmall : ∀ j : Nat, j ≤ 2 ^ 53 → (j : ℤ) ≤ floorClamped (x / y) → j * d ≤ n := by
    intro j hj hfloor
    rw [le_floorClamped_iff hnear.number (by unfold int64Min; omega)
      (by unfold int64Max; omega)] at hfloor
    obtain ⟨s, p, v, hp, hquotient, hv, hvalue⟩ := hnear.rounds
    cases s with
    | positive =>
        rw [withSign] at hquotient hvalue
        rw [← hquotient] at hv
        rw [hvalue, Int.cast_natCast] at hfloor
        exact hv.mul_le hn hd hle (le_min_iff.mp hfloor).1
    | negative =>
        have hdividend : (0 : ℚ) < n := by exact_mod_cast hd.trans_le hle
        have hquotient' : (0 : ℚ) < n / d := div_pos hdividend hpos
        rw [hquotient, withSign] at hquotient'
        linarith
  constructor
  · intro hfloor
    by_cases hk : k ≤ 2 ^ 53
    · exact hsmall k hk hfloor
    · have habsurd := hsmall (2 ^ 53) le_rfl (by push_cast; omega)
      nlinarith
  · intro hmul
    have hk : k < 2 ^ 53 := by nlinarith
    have hydpos : ¬y ≤ 0 := by
      rwa [not_le_zero_iff (ne_notANumber_of_isFinite hy), hyd]
    refine le_floorClamped_div hk (ne_notANumber_of_isFinite hx) hydpos hy ?_
    rw [hxn, hyd]
    exact_mod_cast hmul

end Quotient

end Datacube.Number

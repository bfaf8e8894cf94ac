import Datacube.Proofs.Number.Double
import Mathlib.Algebra.Order.Field.Power
import Mathlib.Data.Rat.Cast.Order
import Mathlib.Tactic.Linarith
import Mathlib.Tactic.NormNum
import Mathlib.Tactic.Positivity
import Mathlib.Tactic.Ring

-- The shortest decimal of a double lies in the interval of the numbers that round to it, so that
-- decimals are ordered as their doubles are.
namespace Datacube.Number

def Scientific.toRat (s : Scientific) : ℚ :=
  s.digits * 10 ^ s.exponent

-- Both factors are the powers they stand for, times the same number.
theorem gridFactors_eq (t e : Int) : ∃ r : ℚ, 0 < r ∧
    ((gridFactors t e).1 : ℚ) = 10 ^ t * r ∧ ((gridFactors t e).2 : ℚ) = 2 ^ e * r := by
  have hsplit : ∀ (b : ℚ) (n : Int), b ≠ 0 → b ^ n.toNat = b ^ n * b ^ (-n).toNat := by
    intro b n hb
    rw [← zpow_natCast, ← zpow_natCast, ← zpow_add₀ hb]
    congr 1
    omega
  refine ⟨10 ^ (-t).toNat * 2 ^ (-e).toNat, by positivity, ?_, ?_⟩
  · simp only [gridFactors, tenTo, twoTo, Nat.pow_eq, Nat.cast_mul, Nat.cast_pow, Nat.cast_ofNat]
    rw [hsplit 10 t (by norm_num)]
    ring
  · simp only [gridFactors, tenTo, twoTo, Nat.pow_eq, Nat.cast_mul, Nat.cast_pow, Nat.cast_ofNat]
    rw [hsplit 2 e (by norm_num)]
    ring

theorem gridFactors_pos (t e : Int) : 0 < (gridFactors t e).1 ∧ 0 < (gridFactors t e).2 := by
  obtain ⟨r, hr, hp, hq⟩ := gridFactors_eq t e
  rw [← @Nat.cast_pos ℚ, ← @Nat.cast_pos ℚ, hp, hq]
  exact ⟨by positivity, by positivity⟩

theorem gridFactors_le_iff {t e : Int} {n c : Nat} :
    n * (gridFactors t e).1 ≤ c * (gridFactors t e).2 ↔ (n * 10 ^ t : ℚ) ≤ c * 2 ^ e := by
  obtain ⟨r, hr, hp, hq⟩ := gridFactors_eq t e
  rw [← @Nat.cast_le ℚ, Nat.cast_mul, Nat.cast_mul, hp, hq, ← mul_assoc, ← mul_assoc]
  exact mul_le_mul_iff_left₀ hr

theorem le_gridFactors_iff {t e : Int} {n c : Nat} :
    c * (gridFactors t e).2 ≤ n * (gridFactors t e).1 ↔ (c * 2 ^ e : ℚ) ≤ n * 10 ^ t := by
  obtain ⟨r, hr, hp, hq⟩ := gridFactors_eq t e
  rw [← @Nat.cast_le ℚ, Nat.cast_mul, Nat.cast_mul, hp, hq, ← mul_assoc, ← mul_assoc]
  exact mul_le_mul_iff_left₀ hr

theorem gridFactors_lt_iff {t e : Int} {n c : Nat} :
    n * (gridFactors t e).1 < c * (gridFactors t e).2 ↔ (n * 10 ^ t : ℚ) < c * 2 ^ e := by
  rw [← not_le, ← not_le, le_gridFactors_iff]

theorem lt_gridFactors_iff {t e : Int} {n c : Nat} :
    c * (gridFactors t e).2 < n * (gridFactors t e).1 ↔ (c * 2 ^ e : ℚ) < n * 10 ^ t := by
  rw [← not_le, ← not_le, gridFactors_le_iff]

-- The multiple of a power of ten below a number, and the one above it.
theorem gridFloor (c : Nat) (t e : Int) :
    ((c * (gridFactors t e).2 / (gridFactors t e).1 : Nat) * 10 ^ t : ℚ) ≤ c * 2 ^ e ∧
      (c * 2 ^ e : ℚ) < ((c * (gridFactors t e).2 / (gridFactors t e).1 : Nat) + 1) * 10 ^ t := by
  refine ⟨gridFactors_le_iff.mp (Nat.div_mul_le_self _ _), ?_⟩
  have habove := Nat.lt_mul_div_succ (c * (gridFactors t e).2) (gridFactors_pos t e).1
  rw [Nat.mul_comm (gridFactors t e).1, lt_gridFactors_iff] at habove
  exact_mod_cast habove

-- A number in an interval; only a closed interval has its ends.
structure Interval.Contains (i : Interval) (x : ℚ) : Prop where
  lower : i.lower * 2 ^ i.exponent ≤ x
  upper : x ≤ i.upper * 2 ^ i.exponent
  inner : i.closed = false → i.lower * 2 ^ i.exponent < x ∧ x < i.upper * 2 ^ i.exponent

theorem Interval.contains_gridPoint {i : Interval} {t : Int} {n : Nat}
    (h : i.gridPoint t = some n) : i.Contains (n * 10 ^ t) := by
  have hinside : ∀ n : Nat,
      (if i.closed then
        i.lower * (gridFactors t i.exponent).2 ≤ n * (gridFactors t i.exponent).1 &&
          n * (gridFactors t i.exponent).1 ≤ i.upper * (gridFactors t i.exponent).2
      else
        i.lower * (gridFactors t i.exponent).2 < n * (gridFactors t i.exponent).1 &&
          n * (gridFactors t i.exponent).1 < i.upper * (gridFactors t i.exponent).2) = true →
      i.Contains (n * 10 ^ t) := by
    intro n hn
    split at hn
    · next hclosed =>
      simp only [Bool.and_eq_true, decide_eq_true_eq, le_gridFactors_iff, gridFactors_le_iff] at hn
      exact ⟨hn.1, hn.2, fun hopen => absurd (hopen.symm.trans hclosed) Bool.false_ne_true⟩
    · simp only [Bool.and_eq_true, decide_eq_true_eq, lt_gridFactors_iff, gridFactors_lt_iff] at hn
      exact ⟨hn.1.le, hn.2.le, fun _ => hn⟩
  unfold Interval.gridPoint at h
  simp only at h
  split at h
  · next hbelow habove =>
    split at h <;> (obtain rfl := Option.some.inj h)
    · exact hinside _ hbelow
    · exact hinside _ habove
  · next hbelow _ =>
    obtain rfl := Option.some.inj h
    exact hinside _ hbelow
  · next _ habove =>
    obtain rfl := Option.some.inj h
    exact hinside _ habove
  · cases h

-- If no grid has a point inside, the last one is so fine that its point below the value is inside.
theorem Interval.contains_firstGrid {i : Interval} (hlower : i.lower < i.value)
    (hupper : i.value < i.upper) (count : Nat) (t : Int)
    (hfine : (10 : ℚ) ^ (t - count) ≤ 2 ^ i.exponent) :
    i.Contains (i.firstGrid count t).toRat := by
  induction count generalizing t with
  | zero =>
      obtain ⟨hbelow, habove⟩ := gridFloor i.value t i.exponent
      have htwo : (0 : ℚ) < 2 ^ i.exponent := by positivity
      have hlower' : (i.lower : ℚ) + 1 ≤ i.value := by exact_mod_cast hlower
      have hupper' : (i.value : ℚ) < i.upper := by exact_mod_cast hupper
      simp only [Nat.cast_zero, sub_zero] at hfine
      simp only [Interval.firstGrid, Scientific.toRat]
      have hstart : (i.lower : ℚ) * 2 ^ i.exponent <
          (i.value * (gridFactors t i.exponent).2 / (gridFactors t i.exponent).1 : Nat) *
            10 ^ t := by
        nlinarith
      have hend : ((i.value * (gridFactors t i.exponent).2 / (gridFactors t i.exponent).1 : Nat) *
          10 ^ t : ℚ) < i.upper * 2 ^ i.exponent :=
        hbelow.trans_lt (by gcongr)
      exact ⟨hstart.le, hend.le, fun _ => ⟨hstart, hend⟩⟩
  | succ count ih =>
      unfold Interval.firstGrid
      split
      · next n hn => exact contains_gridPoint hn
      · apply ih
        have hstep : t - 1 - (count : Int) = t - ((count + 1 : Nat) : Int) := by push_cast; ring
        rwa [hstep]

-- A power of ten below a power of two, for exponents in the range of doubles: the decimal exponent
-- is a little below 0.30103 times the binary one.
theorem ten_zpow_le_two_zpow {u k : Int} (hu : 100000 * u ≤ 30103 * k) (hlow : -1074 ≤ k)
    (hhigh : k ≤ 1023) : (10 : ℚ) ^ u ≤ 2 ^ (k + 9) := by
  rcases le_or_gt 0 u with hsign | hsign
  · -- Compare the third powers, with 1000 below 1024.
    refine (pow_le_pow_iff_left₀ (by positivity) (by positivity) (by norm_num : 3 ≠ 0)).mp ?_
    calc ((10 : ℚ) ^ u) ^ 3 = (10 ^ 3) ^ u := by rw [← zpow_natCast, ← zpow_natCast, zpow_comm]
      _ ≤ (2 ^ 10) ^ u := zpow_le_zpow_left₀ hsign (by norm_num) (by norm_num)
      _ = 2 ^ (10 * u) := by rw [← zpow_natCast, ← zpow_mul]; norm_num
      _ ≤ 2 ^ ((k + 9) * 3) := zpow_le_zpow_right₀ (by norm_num) (by omega)
      _ = (2 ^ (k + 9)) ^ 3 := by rw [← zpow_natCast, ← zpow_mul]; norm_num
  · -- Compare the powers with exponent 28, with 2 ^ 93 below 10 ^ 28.
    refine (pow_le_pow_iff_left₀ (by positivity) (by positivity) (by norm_num : 28 ≠ 0)).mp ?_
    calc ((10 : ℚ) ^ u) ^ 28 = (10 ^ 28) ^ u := by
          rw [← zpow_natCast, ← zpow_natCast, zpow_comm]
      _ ≤ (2 ^ 93) ^ u := by
          have hpositive := zpow_le_zpow_left₀ (by omega : 0 ≤ -u) (by norm_num)
            (by norm_num : (2 : ℚ) ^ 93 ≤ 10 ^ 28)
          rw [zpow_neg, zpow_neg] at hpositive
          exact (inv_le_inv₀ (by positivity) (by positivity)).mp hpositive
      _ = 2 ^ (93 * u) := by rw [← zpow_natCast, ← zpow_mul]; norm_num
      _ ≤ 2 ^ ((k + 9) * 28) := zpow_le_zpow_right₀ (by norm_num) (by omega)
      _ = (2 ^ (k + 9)) ^ 28 := by rw [← zpow_natCast, ← zpow_mul]; norm_num

theorem shortest_fine {m : Nat} {e : Int} (h : Canonical m e) :
    (10 : ℚ) ^ (((m.log2 : Int) + e) * 30103 / 100000 + 1 - (20 : Nat)) ≤ 2 ^ (e - 2) := by
  have hlog : m.log2 ≤ 52 := by
    have hlt := (Nat.log2_lt h.pos.ne').mpr h.lt
    omega
  have hleast := h.least
  have hgreatest := h.greatest
  generalize hk : (m.log2 : Int) + e = k
  have hu := @ten_zpow_le_two_zpow (k * 30103 / 100000) k (by omega) (by omega) (by omega)
  have hsplit : k * 30103 / 100000 + 1 - ((20 : Nat) : Int) = k * 30103 / 100000 + -19 := by
    push_cast
    ring
  rw [hsplit, zpow_add₀ (by norm_num)]
  calc (10 : ℚ) ^ (k * 30103 / 100000) * 10 ^ (-19 : Int) ≤ 2 ^ (k + 9) * 2 ^ (-63 : Int) := by
        gcongr
        norm_num
    _ = 2 ^ (k + 9 + -63) := (zpow_add₀ (by norm_num) _ _).symm
    _ ≤ 2 ^ (e - 2) := zpow_le_zpow_right₀ (by norm_num) (by omega)

theorem roundingInterval_value {m : Nat} (hm : 0 < m) (e : Int) :
    (roundingInterval m e).lower < (roundingInterval m e).value ∧
      (roundingInterval m e).value < (roundingInterval m e).upper := by
  simp only [roundingInterval]
  constructor
  · split <;> omega
  · omega

theorem shortest_contains {m : Nat} {e : Int} (h : Canonical m e) :
    (roundingInterval m e).Contains (shortest m e).toRat := by
  obtain ⟨hlower, hupper⟩ := roundingInterval_value h.pos e
  exact Interval.contains_firstGrid hlower hupper 20 _ (shortest_fine h)

-- Of two doubles of different size the interval of the smaller one ends where that of the larger
-- one starts, or before.
theorem roundingInterval_le {m m' : Nat} {e e' : Int} (h : Canonical m e) (h' : Canonical m' e')
    (hlt : e < e' ∨ e = e' ∧ m < m') :
    ((roundingInterval m e).upper * 2 ^ (e - 2) : ℚ) ≤
      (roundingInterval m' e').lower * 2 ^ (e' - 2) := by
  rcases hlt with hlt | ⟨rfl, hlt⟩
  · have hleast := h.least
    have hnormal := h'.normal (lt_of_le_of_lt hleast hlt)
    have hupper : (roundingInterval m e).upper ≤ 2 * (2 ^ 54 - 1) := by
      have := h.lt
      simp only [roundingInterval]
      omega
    have hlower : 2 ^ 54 - 1 ≤ (roundingInterval m' e').lower := by
      have hbit : twoTo 52 = 2 ^ 52 := rfl
      simp only [roundingInterval, hbit]
      by_cases hleading : m' = 2 ^ 52 ∧ -1074 < e'
      · rw [if_pos hleading]
        omega
      · rw [if_neg hleading]
        omega
    have hstep : (2 : ℚ) * 2 ^ (e - 2) ≤ 2 ^ (e' - 2) := by
      rw [← zpow_one_add₀ (by norm_num)]
      exact zpow_le_zpow_right₀ (by norm_num) (by omega)
    calc ((roundingInterval m e).upper * 2 ^ (e - 2) : ℚ)
        ≤ (2 * (2 ^ 54 - 1) : Nat) * 2 ^ (e - 2) := by gcongr
      _ = (2 ^ 54 - 1 : Nat) * (2 * 2 ^ (e - 2)) := by push_cast; ring
      _ ≤ (roundingInterval m' e').lower * 2 ^ (e' - 2) := by gcongr
  · have hends : (roundingInterval m e).upper ≤ (roundingInterval m' e).lower := by
      simp only [roundingInterval]
      split <;> omega
    gcongr

-- Shortest decimals are ordered as exponents and then mantissas.
theorem shortest_le {m m' : Nat} {e e' : Int} (h : Canonical m e) (h' : Canonical m' e')
    (hle : e < e' ∨ e = e' ∧ m ≤ m') : (shortest m e).toRat ≤ (shortest m' e').toRat := by
  rcases Decidable.em (e = e' ∧ m = m') with ⟨rfl, rfl⟩ | hne
  · exact le_rfl
  · have hlt : e < e' ∨ e = e' ∧ m < m' := by omega
    exact ((shortest_contains h).upper.trans (roundingInterval_le h h' hlt)).trans
      (shortest_contains h').lower

end Datacube.Number

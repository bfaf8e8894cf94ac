import Datacube.Proofs.Number.Floor
import Datacube.Proofs.Number.RoundTrip

-- How far a double is from the number that it is rounded from: by a small part of the number, or
-- among the smallest doubles by half of their distance. In a chain of products only the first of
-- the two counts, once for each product.
namespace Datacube.Number

open Float.Model (UnpackedFloat)
open Float.Model.UnpackedFloat

-- Half a unit in the last of 53 places, as a part of the number.
def roundoff : ℚ := 1 / 2 ^ 53

-- Half of the smallest positive double.
def underflow : ℚ := 2 ^ (-1075 : ℤ)

theorem roundoff_pos : 0 < roundoff := by
  unfold roundoff
  positivity

theorem roundoff_lt_one : roundoff < 1 := by
  norm_num [roundoff]

theorem underflow_pos : 0 < underflow := by
  unfold underflow
  positivity

theorem underflow_le_roundoff : underflow ≤ roundoff := by
  calc underflow ≤ 2 ^ (-53 : ℤ) := two_zpow_le (by norm_num)
    _ = roundoff := by norm_num [roundoff]

section Rounding

variable {p q v w : ℚ}

theorem max_underflow_le (hp : 0 ≤ p) : max (p * roundoff) underflow ≤ p * roundoff + underflow :=
  max_le_add_of_nonneg (mul_nonneg hp roundoff_pos.le) underflow_pos.le

theorem Rounded.error (h : Rounded p v) : |v - p| ≤ max (p * roundoff) underflow := by
  obtain ⟨e, n, hgrid, hn, rfl⟩ := h
  have hunit : (0 : ℚ) < 2 ^ e := by positivity
  have hhalf : |n * 2 ^ e - p| ≤ 2 ^ e / 2 := by
    have hlower := mul_le_mul_of_nonneg_right hn.lower hunit.le
    have hupper := mul_le_mul_of_nonneg_right hn.upper hunit.le
    rw [div_mul_cancel₀ _ hunit.ne'] at hlower hupper
    rw [abs_le]
    constructor <;> linarith
  by_cases hnormal : -1074 < e
  · refine hhalf.trans (le_max_of_le_left ?_)
    have hleading : (2 : ℚ) ^ 52 * 2 ^ e ≤ p := by
      rw [← two_zpow_add]
      exact hgrid.normal hnormal
    calc (2 : ℚ) ^ e / 2 = 2 ^ 52 * 2 ^ e * roundoff := by
          unfold roundoff
          ring
      _ ≤ p * roundoff := by
          gcongr
          exact roundoff_pos.le
  · refine hhalf.trans (le_max_of_le_right (le_of_eq ?_))
    rw [le_antisymm (not_lt.mp hnormal) hgrid.least, underflow, div_eq_mul_inv,
      ← zpow_sub_one₀ two_ne_zero]
    rfl

theorem abs_withSign (s : Sign) (hp : 0 ≤ p) : |withSign s p| = p := by
  cases s with
  | positive => exact abs_of_nonneg hp
  | negative => rw [withSign, abs_neg, abs_of_nonneg hp]

-- As long as the double is finite.
theorem Rounds.error (h : Rounds q w) (hw : |w| < limit) :
    |w - q| ≤ max (|q| * roundoff) underflow := by
  obtain ⟨s, p, v, hp, rfl, hv, rfl⟩ := h
  have hnonneg := hv.nonneg hp
  rw [abs_withSign s (le_min hnonneg limit_pos.le), min_lt_iff, or_iff_left (lt_irrefl _)] at hw
  rw [min_eq_left hw.le, abs_withSign s hp]
  refine le_trans (le_of_eq ?_) hv.error
  cases s with
  | positive => rfl
  | negative =>
      simp only [withSign]
      rw [← abs_neg]
      ring_nf

-- Too large numbers are rounded down only.
theorem Rounds.le (h : Rounds q w) (hq : 0 ≤ q) : w ≤ q + max (q * roundoff) underflow := by
  have herror : 0 ≤ max (q * roundoff) underflow := le_max_of_le_right underflow_pos.le
  obtain ⟨s, p, v, hp, rfl, hv, rfl⟩ := h
  have hnonneg := le_min (hv.nonneg hp) limit_pos.le
  cases s with
  | positive =>
      have hclose := (abs_le.mp hv.error).2
      simp only [withSign] at herror ⊢
      linarith [min_le_left v limit]
  | negative =>
      simp only [withSign] at hq herror ⊢
      linarith

theorem Rounds.le_of_lt_limit (h : Rounds q w) (hq : 0 ≤ q) (hw : w < limit) :
    q ≤ w + max (q * roundoff) underflow := by
  have hfinite : |w| < limit := (abs_of_nonneg (h.nonneg hq)).trans_lt hw
  have hclose := (abs_le.mp (h.error hfinite)).1
  rw [abs_of_nonneg hq] at hclose
  linarith

-- Half of the limit is far enough away from it.
theorem Near.isFinite {x : Float} (h : Near q (parts x)) (hq : 0 ≤ q) (hlt : q ≤ limit / 2) :
    (parts x).isFinite = true := by
  have hlimit := limit_pos
  have hsmall : underflow ≤ limit / 4 := by
    calc underflow ≤ 2 ^ (1022 : ℤ) := two_zpow_le (by norm_num)
      _ = limit / 4 := by
          rw [limit, show (1024 : ℤ) = 1022 + (2 : Nat) by norm_num, two_zpow_add]
          ring
  have hpart : q * roundoff ≤ limit / 4 := by
    calc q * roundoff ≤ limit / 2 * (1 / 2) := by
          refine mul_le_mul hlt ?_ roundoff_pos.le (by positivity)
          norm_num [roundoff]
      _ = limit / 4 := by ring
  have hnonneg := h.rounds.nonneg hq
  have habove := h.rounds.le hq
  have herror := max_le hpart hsmall
  exact (proper_of_parts h.number).isFinite_iff.mpr
    ⟨(neg_lt_zero.mpr hlimit).trans_le hnonneg, by linarith⟩

end Rounding

section Products

variable {a b : Nat} {p q : ℚ} {x y : Float}

-- A double that differs from a number by as much as so many roundings may change it, all of them
-- above one.
structure Approximates (x : Float) (q : ℚ) (count : Nat) : Prop where
  finite : (parts x).isFinite = true
  one_le : 1 ≤ value (parts x)
  lower : q * (1 - roundoff) ^ count ≤ value (parts x)
  upper : value (parts x) ≤ q * (1 + roundoff) ^ count

theorem max_underflow (hq : 1 ≤ q) : max (q * roundoff) underflow = q * roundoff :=
  max_eq_left (underflow_le_roundoff.trans (le_mul_of_one_le_left roundoff_pos.le hq))

-- One more rounding.
theorem Near.approximates (h : Near p (parts x)) (hp : 1 ≤ p)
    (hlower : q * (1 - roundoff) ^ a ≤ p) (hupper : p ≤ q * (1 + roundoff) ^ a)
    (hlimit : q * (1 + roundoff) ^ (a + 1) < limit) :
    Approximates x q (a + 1) := by
  have hone : 1 ≤ value (parts x) := by
    have hunit := rounds_natCast (n := 1) (by norm_num)
    rw [Nat.cast_one] at hunit
    exact hunit.mono h.rounds hp
  have hunit := roundoff_pos
  have hless := roundoff_lt_one
  have habove := h.rounds.le (by linarith)
  rw [max_underflow hp] at habove
  have habove' : value (parts x) ≤ q * (1 + roundoff) ^ (a + 1) := by
    calc value (parts x) ≤ p * (1 + roundoff) := by linarith
      _ ≤ q * (1 + roundoff) ^ a * (1 + roundoff) := by gcongr
      _ = q * (1 + roundoff) ^ (a + 1) := by ring
  have hfinite := habove'.trans_lt hlimit
  have hbelow := h.rounds.le_of_lt_limit (by linarith) hfinite
  rw [max_underflow hp] at hbelow
  refine ⟨(proper_of_parts h.number).isFinite_iff.mpr ⟨?_, hfinite⟩, hone, ?_, habove'⟩
  · exact (neg_lt_zero.mpr limit_pos).trans (zero_lt_one.trans_le hone)
  · calc q * (1 - roundoff) ^ (a + 1) = q * (1 - roundoff) ^ a * (1 - roundoff) := by ring
      _ ≤ p * (1 - roundoff) := mul_le_mul_of_nonneg_right hlower (sub_pos.mpr hless).le
      _ ≤ value (parts x) := by linarith only [hbelow]

theorem Approximates.pos (h : Approximates x q a) : 0 < q := by
  have hunit := roundoff_pos
  refine pos_of_mul_pos_left ?_ (pow_pos (add_pos one_pos hunit) a).le
  exact zero_lt_one.trans_le (h.one_le.trans h.upper)

-- A few roundings are not worth more than one unit beyond their number.
theorem roundoff_pow_le {count : Nat} (hcount : count ≤ 2 ^ 26) :
    1 - count * roundoff ≤ (1 - roundoff) ^ count ∧
      (1 + roundoff) ^ count ≤ 1 + (count + 1) * roundoff := by
  have hunit := roundoff_pos
  have hless := roundoff_lt_one
  have hlower : 1 - count * roundoff ≤ (1 - roundoff) ^ count := by
    have hbernoulli := one_add_mul_le_pow (a := -roundoff) (by linarith) count
    rwa [mul_neg, ← sub_eq_add_neg, ← sub_eq_add_neg] at hbernoulli
  have hnonneg : 0 ≤ count * roundoff := by positivity
  have hcast : (count : ℚ) ≤ 2 ^ 26 := by exact_mod_cast hcount
  have hsmall : count * roundoff ≤ 1 / 2 ^ 27 := by
    calc count * roundoff ≤ 2 ^ 26 * roundoff := by gcongr
      _ = 1 / 2 ^ 27 := by norm_num [roundoff]
  have hsquare : (count + 1) * (count * roundoff) ≤ 1 := by
    calc (count + 1) * (count * roundoff) ≤ (2 ^ 26 + 1) * (1 / 2 ^ 27) := by gcongr
      _ ≤ 1 := by norm_num
  refine ⟨hlower, ?_⟩
  have hproduct : (1 + roundoff) ^ count * (1 - count * roundoff) ≤ 1 := by
    calc (1 + roundoff) ^ count * (1 - count * roundoff)
        ≤ (1 + roundoff) ^ count * (1 - roundoff) ^ count := by gcongr
      _ = (1 - roundoff ^ 2) ^ count := by
          rw [← mul_pow]
          ring
      _ ≤ 1 := pow_le_one₀ (by nlinarith) (by nlinarith)
  have hpos : 0 < 1 - count * roundoff := by linarith
  rw [← le_div_iff₀ hpos] at hproduct
  refine hproduct.trans ((div_le_iff₀ hpos).mpr ?_)
  nlinarith

theorem Approximates.error {count : Nat} (h : Approximates x q count) (hcount : count ≤ 2 ^ 26) :
    |value (parts x) - q| ≤ q * ((count + 1) * roundoff) := by
  obtain ⟨hlower, hupper⟩ := roundoff_pow_le hcount
  have hpos := h.pos
  have hbelow := (mul_le_mul_of_nonneg_left hlower hpos.le).trans h.lower
  have habove := h.upper.trans (mul_le_mul_of_nonneg_left hupper hpos.le)
  have hnonneg : 0 ≤ q * roundoff := mul_nonneg hpos.le roundoff_pos.le
  rw [abs_le]
  constructor <;> linarith

theorem Approximates.mul (hx : Approximates x p a) (hy : Approximates y q b)
    (hlimit : p * q * (1 + roundoff) ^ (a + b + 1) < limit) :
    Approximates (x * y) (p * q) (a + b + 1) := by
  have hnear := near_mul (proper_of_parts (ne_notANumber_of_isFinite hx.finite))
    (proper_of_parts (ne_notANumber_of_isFinite hy.finite)) hx.finite hy.finite
  rw [← parts_mul] at hnear
  have hxpos : 0 ≤ value (parts x) := zero_le_one.trans hx.one_le
  have hypos : 0 ≤ value (parts y) := zero_le_one.trans hy.one_le
  have hqpos : 0 ≤ q * (1 - roundoff) ^ b :=
    mul_nonneg hy.pos.le (pow_nonneg (sub_pos.mpr roundoff_lt_one).le b)
  refine hnear.approximates (one_le_mul_of_one_le_of_one_le hx.one_le hy.one_le) ?_ ?_ hlimit
  · calc p * q * (1 - roundoff) ^ (a + b)
        = p * (1 - roundoff) ^ a * (q * (1 - roundoff) ^ b) := by ring
      _ ≤ value (parts x) * value (parts y) := mul_le_mul hx.lower hy.lower hqpos hxpos
  · calc value (parts x) * value (parts y)
        ≤ p * (1 + roundoff) ^ a * (q * (1 + roundoff) ^ b) :=
          mul_le_mul hx.upper hy.upper hypos (hxpos.trans hx.upper)
      _ = p * q * (1 + roundoff) ^ (a + b) := by ring

-- The product with a factor that may be left out.
theorem Approximates.factor {acc : Float} {n : Nat} (hacc : Approximates acc p a)
    (hx : Approximates x q b)
    (hlimit : p * q ^ (n % 2) * (1 + roundoff) ^ (a + n % 2 * (b + 1)) < limit) :
    Approximates (if n % 2 = 1 then acc * x else acc) (p * q ^ (n % 2)) (a + n % 2 * (b + 1)) := by
  rcases Nat.mod_two_eq_zero_or_one n with heven | hodd
  · rw [heven] at hlimit ⊢
    simpa using hacc
  · rw [hodd] at hlimit ⊢
    simp only [pow_one, one_mul, if_true] at hlimit ⊢
    exact hacc.mul hx hlimit

-- With squaring, each factor brings in its own roundings and that of one product.
theorem Approximates.floatPower {acc x : Float} (n : Nat) (hacc : Approximates acc p a)
    (hx : Approximates x q b) (hq : 1 ≤ q)
    (hlimit : p * q ^ n * (1 + roundoff) ^ (a + n * (b + 1)) < limit) :
    Approximates (Decimal.floatPower acc x n) (p * q ^ n) (a + n * (b + 1)) := by
  have hstep : 1 ≤ 1 + roundoff := le_add_of_nonneg_right roundoff_pos.le
  have hmono : ∀ {i j k l : Nat} {p q : ℚ}, 0 < p → 1 ≤ q → i ≤ j → k ≤ l →
      p * q ^ i * (1 + roundoff) ^ k ≤ p * q ^ j * (1 + roundoff) ^ l := by
    intro i j k l p q hp hq hij hkl
    gcongr
  fun_induction Decimal.floatPower acc x n generalizing p q a b with
  | case1 acc x n sofar =>
      rename_i hlast
      have hrest : n % 2 = n := Nat.mod_eq_of_lt hlast
      have hfactor : Approximates sofar (p * q ^ (n % 2)) (a + n % 2 * (b + 1)) :=
        hacc.factor hx (by rwa [hrest])
      rwa [hrest] at hfactor
  | case2 acc x n sofar hmore =>
      rename_i ih
      have hfactor : Approximates sofar (p * q ^ (n % 2)) (a + n % 2 * (b + 1)) :=
        hacc.factor hx ((hmono hacc.pos hq (Nat.mod_le n 2)
          (Nat.add_le_add_left (Nat.mul_le_mul_right _ (Nat.mod_le n 2)) a)).trans_lt hlimit)
      have hsquare : Approximates (x * x) (q * q) (b + b + 1) := by
        refine hx.mul hx (lt_of_le_of_lt ?_ hlimit)
        have htwo : 2 ≤ n := not_lt.mp hmore
        have hcounts : b + b + 1 ≤ n * (b + 1) := by nlinarith
        calc q * q * (1 + roundoff) ^ (b + b + 1)
            = 1 * q ^ 2 * (1 + roundoff) ^ (b + b + 1) := by ring
          _ ≤ 1 * q ^ n * (1 + roundoff) ^ (n * (b + 1)) := hmono one_pos hq htwo hcounts
          _ ≤ p * (1 + roundoff) ^ a * q ^ n * (1 + roundoff) ^ (n * (b + 1)) := by
              gcongr
              exact hacc.one_le.trans hacc.upper
          _ = p * q ^ n * (1 + roundoff) ^ (a + n * (b + 1)) := by ring
      have hsplit : n % 2 + 2 * (n / 2) = n := Nat.mod_add_div n 2
      have hvalue : p * q ^ (n % 2) * (q * q) ^ (n / 2) = p * q ^ n := by
        rw [← sq, ← pow_mul, mul_assoc, ← pow_add, hsplit]
      have hcount : a + n % 2 * (b + 1) + n / 2 * (b + b + 1 + 1) = a + n * (b + 1) := by
        calc a + n % 2 * (b + 1) + n / 2 * (b + b + 1 + 1)
            = a + (n % 2 + 2 * (n / 2)) * (b + 1) := by ring
          _ = a + n * (b + 1) := by rw [hsplit]
      have hresult := ih hfactor hsquare (one_le_mul_of_one_le_of_one_le hq hq)
        (by rwa [hvalue, hcount])
      rwa [hvalue, hcount] at hresult

-- Small whole numbers are exact.
theorem approximates_natCast {n : Nat} (h : Near n (parts x)) (hpos : 1 ≤ n) (hn : n < 2 ^ 53) :
    Approximates x n 0 := by
  have hnear : Near ((n : ℤ) : ℚ) (parts x) := h
  have hvalue := hnear.value_intCast hn
  rw [Int.cast_natCast] at hvalue
  refine ⟨isFinite_of_intCast (n := n) h.number hn hvalue, ?_, by simp [hvalue], by simp [hvalue]⟩
  rw [hvalue]
  exact_mod_cast hpos

end Products

-- A finite double is next to the decimal that its shortest text writes.
theorem Decimal.near_ofFloat {x : Float} {d : Decimal} (h : ofFloat x = some d) :
    Near d.toRat (parts x) ∧ (parts x).isFinite = true := by
  cases ofParts_of_ofFloat h with
  | zero s hx hd =>
      have hzero := rounds_natCast (n := 0) (by norm_num)
      rw [hd, hx]
      exact ⟨⟨UnpackedFloat.noConfusion, by exact_mod_cast hzero⟩, rfl⟩
  | positive m e hm hx hd =>
      rw [hd, hx]
      exact ⟨⟨UnpackedFloat.noConfusion, shortest_rounds (canonical_of_parts hx) .positive⟩, rfl⟩
  | negative m e hm hx hd =>
      rw [hd, hx]
      exact ⟨⟨UnpackedFloat.noConfusion, shortest_rounds (canonical_of_parts hx) .negative⟩, rfl⟩

end Datacube.Number

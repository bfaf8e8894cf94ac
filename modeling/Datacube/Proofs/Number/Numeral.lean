import Datacube.Proofs.Number.Quotient

-- The doubles that decimal numerals and integers stand for: they are the doubles next to them.
namespace Datacube.Number

open Float.Model (Format UnpackedFloat totalExponent)
open Float.Model.UnpackedFloat

section Conversion

theorem natCast_lt_limit {n : Nat} (hn : n < 2 ^ 53) : (n : ℚ) < limit := by
  calc (n : ℚ) < 2 ^ (53 : ℤ) := by exact_mod_cast hn
    _ ≤ limit := two_zpow_le (by norm_num)

theorem parts_toFloat (n : UInt64) :
    parts n.toFloat = stored (UnpackedFloat.normalize Format.binary64 n.toNat 0 .positive) := rfl

theorem near_toFloat (n : Nat) (hn : n < 2 ^ 53) : Near n (parts n.toUInt64.toFloat) := by
  have hcast : n.toUInt64.toNat = n := Nat.mod_eq_of_lt (by omega)
  rw [parts_toFloat, hcast]
  simpa using near_normalize n 0 .positive

-- A binary fraction of few digits is a double of either sign.
theorem rounds_dyadic {n t : ℤ} (hn : n.natAbs < 2 ^ 53) (hlow : -1074 ≤ t) (hhigh : t ≤ 971) :
    Rounds (n * 2 ^ t) (n * 2 ^ t) := by
  have hnat : ∀ m : Nat, m < 2 ^ 53 → Rounds (m * 2 ^ t) (m * 2 ^ t) := by
    intro m hm
    refine ⟨.positive, _, _, by positivity, rfl, rounded_dyadic hm hlow, (min_eq_left ?_).symm⟩
    have hcast : (m : ℚ) ≤ 2 ^ 53 := by exact_mod_cast hm.le
    calc (m : ℚ) * 2 ^ t ≤ 2 ^ 53 * 2 ^ (971 : ℤ) := by
          gcongr
          exact one_le_two
      _ = limit := (two_zpow_add 971 53).symm
  rcases Int.natAbs_eq n with heq | heq
  · rw [heq, Int.cast_natCast]
    exact hnat _ hn
  · rw [heq, Int.cast_neg, neg_mul, Int.cast_natCast]
    exact (hnat _ hn).neg

theorem rounds_intCast {n : ℤ} (hn : n.natAbs < 2 ^ 53) : Rounds n n := by
  have hrounds := rounds_dyadic (t := 0) hn (by norm_num) (by norm_num)
  rwa [zpow_zero, mul_one] at hrounds

theorem rounds_natCast {n : Nat} (hn : n < 2 ^ 53) : Rounds n n :=
  rounds_intCast (n := n) hn

theorem Rounds.nonneg {q w : ℚ} (h : Rounds q w) (hq : 0 ≤ q) : 0 ≤ w := by
  have hzero := rounds_natCast (n := 0) (by norm_num)
  rw [Nat.cast_zero] at hzero
  exact hzero.mono h hq

-- A whole number that is near to a double is what the double is worth.
theorem Near.value_intCast {n : ℤ} {u : UnpackedFloat} (h : Near n u) (hn : n.natAbs < 2 ^ 53) :
    value u = n :=
  h.rounds.unique (rounds_intCast hn)

theorem isFinite_of_intCast {n : ℤ} {x : Float} (hnumber : parts x ≠ .notANumber)
    (hn : n.natAbs < 2 ^ 53) (hvalue : value (parts x) = n) : (parts x).isFinite = true := by
  have hlt := natCast_lt_limit hn
  obtain ⟨s, hs⟩ | ⟨hfinite, -⟩ := (proper_of_parts hnumber).infinite_or_within
  · have habs : |value (parts x)| = n.natAbs := by
      rw [hvalue, Nat.cast_natAbs, Int.cast_abs]
    rw [hs, value] at habs
    cases s <;> simp only [withSign, abs_neg, abs_of_pos limit_pos] at habs <;> linarith
  · exact hfinite

theorem value_toFloat (n : Nat) (hn : n < 2 ^ 53) : value (parts n.toUInt64.toFloat) = n :=
  Near.value_intCast (n := n) (near_toFloat n hn) hn

theorem isFinite_toFloat (n : Nat) (hn : n < 2 ^ 53) :
    (parts n.toUInt64.toFloat).isFinite = true :=
  isFinite_of_intCast (n := n) (near_toFloat n hn).number hn (value_toFloat n hn)

theorem ofScientific_small {n : Nat} (negative : Bool) {e : Nat} (hn : n < 2 ^ 53)
    (he : e < Float.exactlyRepresentablePowersOfTen.size) :
    Float.ofScientific n negative e =
      if negative then n.toUInt64.toFloat / Float.exactlyRepresentablePowersOfTen[e]
      else n.toUInt64.toFloat * Float.exactlyRepresentablePowersOfTen[e] := by
  rw [Float.ofScientific, dif_pos ⟨hn, Nat.le_of_lt_succ he⟩]

theorem parts_ofScientific_large {n : Nat} (negative : Bool) {e : Nat}
    (h : ¬(n < 2 ^ 53 ∧ e ≤ 22)) :
    parts (Float.ofScientific n negative e) =
      stored (ofScientific Format.binary64 n
        (if negative then Int.negOfNat e else Int.ofNat e)) := by
  rw [Float.ofScientific, dif_neg h]
  rfl

end Conversion

section Numerals

-- A double that is a power of ten.
def isPowerOfTen (u : UnpackedFloat) (i : Nat) : Bool :=
  match u with
  | .finite .positive m e _ => m * 2 ^ e.toNat == 10 ^ i * 2 ^ (-e).toNat
  | _ => false

theorem isPowerOfTen_table : ∀ i : Fin Float.exactlyRepresentablePowersOfTen.size,
    isPowerOfTen (parts Float.exactlyRepresentablePowersOfTen[i]) i = true := by
  decide +kernel

theorem parts_power {i : Nat} (hi : i < Float.exactlyRepresentablePowersOfTen.size) :
    ∃ m e hm, parts Float.exactlyRepresentablePowersOfTen[i] = .finite .positive m e hm ∧
      (m : ℚ) * 2 ^ e = 10 ^ i := by
  have hpower : isPowerOfTen (parts Float.exactlyRepresentablePowersOfTen[i]) i = true :=
    isPowerOfTen_table ⟨i, hi⟩
  unfold isPowerOfTen at hpower
  split at hpower
  · next m e hm hparts =>
    refine ⟨m, e, hm, hparts, ?_⟩
    have hcast : (m : ℚ) * 2 ^ e.toNat = 10 ^ i * 2 ^ (-e).toNat := by
      exact_mod_cast beq_iff_eq.mp hpower
    have hsplit : (2 : ℚ) ^ e * 2 ^ (-e).toNat = 2 ^ e.toNat := by
      rw [← zpow_natCast, ← zpow_natCast, ← zpow_add₀ two_ne_zero]
      congr 1
      omega
    have hunit : (0 : ℚ) < 2 ^ (-e).toNat := by positivity
    rw [← mul_right_cancel_iff_of_pos hunit, mul_assoc, hsplit, hcast]
  · exact absurd hpower Bool.false_ne_true

-- A number above the largest double goes to the infinity.
theorem near_infinity {q : ℚ} {v : ℚ} (hq : limit ≤ q) (hv : Rounded q v) :
    Near q (stored (.infinity .positive)) := by
  have hlimit : Rounded limit limit := by
    have hrefl := Rounded.refl (m := 2 ^ 52) (e := 972) (by norm_num) (by norm_num) (by norm_num)
    have hvalue : ((2 ^ 52 : Nat) : ℚ) * 2 ^ (972 : ℤ) = limit := by
      rw [Nat.cast_pow]
      exact (two_zpow_add 972 52).symm
    rwa [hvalue] at hrefl
  rw [stored_infinity]
  refine ⟨UnpackedFloat.noConfusion, .positive, q, v, limit_pos.le.trans hq, rfl, hv, ?_⟩
  rw [min_eq_right (hlimit.mono hv hq)]
  rfl

-- A number below one half of the smallest double goes to zero.
theorem near_tiny {q : ℚ} (hq : 0 ≤ q) (hlt : q < 2 ^ (-1075 : ℤ)) :
    Near q (stored (.zero .positive)) := by
  have hrounded : Rounded q 0 := by
    refine ⟨-1074, 0, ⟨?_, le_rfl, fun h => absurd h (lt_irrefl _)⟩, ?_, by simp⟩
    · exact hlt.trans_le (two_zpow_le (by norm_num))
    · have hhalf : q / 2 ^ (-1074 : ℤ) < 1 / 2 := by
        rw [div_lt_iff₀ (by positivity)]
        calc q < 2 ^ (-1075 : ℤ) := hlt
          _ = 1 / 2 * 2 ^ (-1074 : ℤ) := by
            rw [show (-1075 : ℤ) = -1 + -1074 by norm_num, zpow_add₀ two_ne_zero]
            norm_num
      have hnearest := Nearest.below (n := 0) (div_nonneg hq (by positivity)) hhalf
      rwa [Int.cast_zero, zero_add] at hnearest
  rw [stored_zero]
  refine ⟨UnpackedFloat.noConfusion, .positive, q, 0, hq, rfl, hrounded, ?_⟩
  rw [min_eq_left limit_pos.le]
  rfl

theorem exponentBits_eq : (2 : ℤ) ^ Format.binary64.exponentBits = 2 ^ 11 := rfl

-- Powers of ten that are not negative: the digits are made longer and multiplied.
theorem near_scientific_nonneg {n : Nat} (hn : 0 < n) (e : Nat) :
    Near (n * 10 ^ e) (stored (ofScientific Format.binary64 n e)) := by
  rw [UnpackedFloat.ofScientific, dif_neg hn.ne', exponentBits_eq]
  split
  · next hlarge =>
    have hcast : ((n * 10 ^ e : Nat) : ℚ) * 2 ^ (0 : ℤ) = n * 10 ^ e := by push_cast; ring
    obtain ⟨v, hv, -⟩ := round_holds .positive (m := n * 10 ^ e) 0 (by positivity)
    rw [hcast] at hv
    refine near_infinity ?_ hv
    calc limit ≤ 2 ^ (1024 : Nat) := by
          rw [limit]
          exact (zpow_natCast 2 1024).le
      _ ≤ 2 ^ e := pow_le_pow_right₀ one_le_two (by omega)
      _ ≤ 10 ^ e := pow_le_pow_left₀ (by norm_num) (by norm_num) e
      _ ≤ n * 10 ^ e := le_mul_of_one_le_left (by positivity) (by exact_mod_cast hn)
  · rw [if_neg (by omega), if_pos (Int.natCast_nonneg e)]
    have hdigits : 0 < n <<< 53 := Nat.shiftLeft_pos_iff.mpr hn
    have hpower : 0 < 10 ^ (e : ℤ).toNat := Nat.pow_pos (by decide)
    have hexponent : (-53 : ℤ) + (0 : ℤ) ≤ Format.binary64.targetExponent
        (totalExponent (n <<< 53 * 10 ^ (e : ℤ).toNat) (-53 + 0)) := by
      have hlonger : 2 ^ 53 ≤ n <<< 53 * 10 ^ (e : ℤ).toNat :=
        calc 2 ^ 53 ≤ n * 2 ^ 53 := Nat.le_mul_of_pos_left _ hn
          _ = n <<< 53 := (Nat.shiftLeft_eq n 53).symm
          _ ≤ n <<< 53 * 10 ^ (e : ℤ).toNat := Nat.le_mul_of_pos_right _ hpower
      have hlog := (Nat.le_log2 (Nat.mul_pos hdigits hpower).ne').mpr hlonger
      rw [targetExponent_eq, totalExponent]
      omega
    have hnear := near_mul_finite .positive .positive hdigits hpower hexponent
    have hvalue : value (.finite .positive (n <<< 53) (-53) hdigits) *
        value (.finite .positive (10 ^ (e : ℤ).toNat) 0 hpower) = n * 10 ^ e := by
      simp only [value, withSign, Nat.shiftLeft_eq, Int.toNat_natCast]
      push_cast
      norm_num
      field_simp
    rw [hvalue] at hnear
    exact hnear

-- Negative powers of ten: the digits are divided.
theorem near_scientific_neg {n : Nat} (hn : 0 < n) {e : Nat} (he : 0 < e) :
    Near (n / 10 ^ e) (stored (ofScientific Format.binary64 n (-e))) := by
  rw [UnpackedFloat.ofScientific, dif_neg hn.ne', exponentBits_eq, if_neg (by omega)]
  split
  · next hsmall =>
    refine near_tiny (by positivity) ?_
    have hdigits : (n : ℚ) < 2 ^ (n.log2 + 1) := by exact_mod_cast Nat.lt_log2_self
    have hpower : (2 : ℚ) ^ (n.log2 + 1 + 1075) ≤ 10 ^ e := by
      calc (2 : ℚ) ^ (n.log2 + 1 + 1075) ≤ 2 ^ e := pow_le_pow_right₀ one_le_two (by omega)
        _ ≤ 10 ^ e := pow_le_pow_left₀ (by norm_num) (by norm_num) e
    rw [div_lt_iff₀ (by positivity), zpow_neg, ← div_eq_inv_mul, lt_div_iff₀ (by positivity)]
    calc (n : ℚ) * 2 ^ (1075 : ℤ) < 2 ^ (n.log2 + 1) * 2 ^ (1075 : ℤ) := by gcongr
      _ = 2 ^ (n.log2 + 1 + 1075) := (pow_add 2 (n.log2 + 1) 1075).symm
      _ ≤ 10 ^ e := hpower
  · rw [if_neg (by omega)]
    have hpower : 0 < 10 ^ (- -(e : ℤ)).toNat := Nat.pow_pos (by decide)
    have hnear := @near_div_finite .positive .positive n _ 0 0 hn hpower
    have hvalue : value (.finite .positive n 0 hn) /
        value (.finite .positive (10 ^ (- -(e : ℤ)).toNat) 0 hpower) = n / 10 ^ e := by
      simp [value, withSign]
    rw [hvalue] at hnear
    exact hnear

-- The power of ten that a numeral is multiplied with.
def numeralPower (negative : Bool) (e : Nat) : ℚ :=
  if negative then (10 ^ e)⁻¹ else 10 ^ e

-- A numeral stands for the double next to it, however it is computed.
theorem near_ofScientific (n : Nat) (negative : Bool) (e : Nat) :
    Near (n * numeralPower negative e) (parts (Float.ofScientific n negative e)) := by
  by_cases hsmall : n < 2 ^ 53 ∧ e ≤ 22
  · obtain ⟨hn, he⟩ := hsmall
    have hi : e < Float.exactlyRepresentablePowersOfTen.size := Nat.lt_succ_of_le he
    obtain ⟨m, e', hm, hparts, hpower⟩ := parts_power hi
    have hvalue : value (parts Float.exactlyRepresentablePowersOfTen[e]) = 10 ^ e := by
      rw [hparts]
      exact hpower
    have hfinite : (parts Float.exactlyRepresentablePowersOfTen[e]).isFinite = true := by
      rw [hparts]
      rfl
    rw [ofScientific_small negative hn hi]
    cases negative with
    | false =>
        rw [if_neg Bool.false_ne_true]
        have hnear := (follows_mul hparts).finite n.toUInt64.toFloat (isFinite_toFloat n hn)
        rwa [value_toFloat n hn, hvalue] at hnear
    | true =>
        rw [if_pos rfl, parts_div]
        have hnear := near_div (isFinite_toFloat n hn) hfinite (by rw [hvalue]; positivity)
        rwa [value_toFloat n hn, hvalue, div_eq_mul_inv] at hnear
  · rw [parts_ofScientific_large negative hsmall]
    rcases Nat.eq_zero_or_pos n with rfl | hn
    · rw [UnpackedFloat.ofScientific, dif_pos rfl, Nat.cast_zero, zero_mul]
      exact near_zero .positive
    · cases negative with
      | false => exact near_scientific_nonneg hn e
      | true =>
          rcases Nat.eq_zero_or_pos e with rfl | he
          · have hnear := near_scientific_nonneg hn 0
            rw [pow_zero, mul_one] at hnear
            rw [numeralPower, if_pos rfl, pow_zero, inv_one, mul_one]
            exact hnear
          · have hnear := near_scientific_neg hn he
            rw [div_eq_mul_inv] at hnear
            rw [if_pos rfl, Int.negOfNat_eq]
            exact hnear

end Numerals

section Integers

theorem near_ofNat (n : Nat) : Near n (parts (Float.ofNat n)) := by
  have hnear := near_ofScientific n false 0
  rw [numeralPower, if_neg Bool.false_ne_true, pow_zero, mul_one] at hnear
  exact hnear

theorem near_ofInt (n : ℤ) : Near n (parts (Float.ofInt n)) := by
  cases n with
  | ofNat n => exact_mod_cast near_ofNat n
  | negSucc n =>
      have hnear := near_neg (near_ofNat (n + 1))
      rw [Int.cast_negSucc]
      exact hnear

theorem parts_ofInt_zero : parts (Float.ofInt 0) = .zero .positive := rfl

-- A step of no length stays where it is.
theorem add_zero_mul_same {c r : Float} (hc : (parts c).isFinite = true)
    (hr : (parts r).isFinite = true) :
    Same (c + Float.ofInt 0 * r) c := by
  have hzero : ∃ s, parts (Float.ofInt 0 * r) = .zero s := by
    rw [parts_mul, parts_ofInt_zero]
    cases hparts : parts r with
    | notANumber | infinity s => rw [hparts] at hr; exact absurd hr Bool.false_ne_true
    | zero s | finite s m e hm => exact ⟨_, stored_zero _⟩
  obtain ⟨s, hs⟩ := hzero
  have hnear := (follows_add hc).finite (Float.ofInt 0 * r) (by rw [hs]; rfl)
  rw [hs, show value (.zero s) = 0 from rfl, add_zero] at hnear
  exact same_iff.mpr ⟨hnear.number, ne_notANumber_of_isFinite hc,
    hnear.rounds.unique (near_value hc).rounds⟩

theorem add_notANumber {c x : Float} (h : parts x = .notANumber) :
    parts (c + x) = .notANumber := by
  rw [parts_add, h]
  cases parts c <;> exact stored_notANumber

-- Equal steps from a finite start do not go backwards.
theorem not_step_lt {c r : Float} (hc : (parts c).isFinite = true) (hr : 0 ≤ value (parts r))
    {i j : ℤ} (hij : i ≤ j) : ¬c + Float.ofInt j * r < c + Float.ofInt i * r := by
  have hcount := (near_ofInt i).value_le (near_ofInt j) (Int.cast_le.mpr hij)
  generalize Float.ofInt i = x at hcount ⊢
  generalize Float.ofInt j = y at hcount ⊢
  by_cases hx : parts (c + x * r) = .notANumber
  · exact not_lt_of_notANumber (.inr hx)
  by_cases hy : parts (c + y * r) = .notANumber
  · exact not_lt_of_notANumber (.inl hy)
  have hproduct : parts (x * r) ≠ .notANumber := fun h => hx (add_notANumber h)
  have hproduct' : parts (y * r) ≠ .notANumber := fun h => hy (add_notANumber h)
  rw [not_lt_iff_le hx hy, le_iff_value hx hy]
  exact add_mono hc hproduct hproduct' (mul_mono hr hcount hproduct hproduct')

end Integers

end Datacube.Number

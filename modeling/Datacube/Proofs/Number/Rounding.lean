import Datacube.Proofs.Number.Double
import Mathlib

-- Rounding to doubles: the nearest integer on the grid of the leading bit, with a half to the even
-- neighbour. A larger number is never rounded to a smaller double.
namespace Datacube.Number

open Float.Model (Format UnpackedFloat totalExponent)
open Float.Model.UnpackedFloat

-- The integer next to a number; a number in the middle goes to the even one.
structure Nearest (q : ℚ) (n : ℤ) : Prop where
  lower : n - 1 / 2 ≤ q
  upper : q ≤ n + 1 / 2
  tie : q = n - 1 / 2 ∨ q = n + 1 / 2 → Even n

namespace Nearest

theorem mono {q q' : ℚ} {n n' : ℤ} (h : Nearest q n) (h' : Nearest q' n') (hle : q ≤ q') :
    n ≤ n' := by
  by_contra hlt
  have hnext : (n' : ℚ) + 1 ≤ n := by exact_mod_cast not_le.mp hlt
  have hlower := h.lower
  have hupper := h'.upper
  -- Both numbers are in the middle between two neighbours, of which only one is even.
  have heven := h.tie (.inl (by linarith))
  have heven' := h'.tie (.inr (by linarith))
  have hneighbour : n = n' + 1 := by
    have : (n : ℚ) = n' + 1 := by linarith
    exact_mod_cast this
  rw [hneighbour, Int.even_add_one] at heven
  exact heven heven'

theorem below {n : ℤ} {rest : ℚ} (hnonneg : 0 ≤ rest) (hlt : rest < 1 / 2) :
    Nearest (n + rest) n :=
  ⟨by linarith, by linarith, by rintro (h | h) <;> linarith⟩

theorem above {n : ℤ} {rest : ℚ} (hpos : 0 < rest) (hlt : rest < 1 / 2) :
    Nearest (n + 1 / 2 + rest) (n + 1) :=
  ⟨by push_cast; linarith, by push_cast; linarith,
    by rintro (h | h) <;> push_cast at h <;> linarith⟩

theorem middle (n : ℤ) : Nearest (n + 1 / 2) (n + n % 2) := by
  obtain ⟨k, rfl | rfl⟩ := Int.even_or_odd' n
  · have heven : 2 * k + 2 * k % 2 = 2 * k := by omega
    rw [heven]
    exact ⟨by linarith, le_rfl, fun _ => even_two_mul k⟩
  · have hodd : 2 * k + 1 + (2 * k + 1) % 2 = 2 * (k + 1) := by omega
    rw [hodd]
    exact ⟨by push_cast; linarith, by push_cast; linarith, fun _ => even_two_mul (k + 1)⟩

theorem refl (n : ℤ) : Nearest n n := by
  simpa using below (n := n) le_rfl (by norm_num)

theorem le {q : ℚ} {n bound : ℤ} (h : Nearest q n) (hle : q ≤ bound) : n ≤ bound :=
  h.mono (.refl bound) hle

theorem ge {q : ℚ} {n bound : ℤ} (h : Nearest q n) (hle : bound ≤ q) : bound ≤ n :=
  (Nearest.refl bound).mono h hle

end Nearest

section Bits

-- What a mantissa with two more bits says about a number: the first bit is worth one half, and the
-- second one says whether anything is left behind it.
def Represents (em : ExtendedMantissa) (q : ℚ) : Prop :=
  ∃ rest : ℚ, 0 ≤ rest ∧ rest < 1 / 2 ∧ (em.stickyBit = true ↔ rest ≠ 0) ∧
    q = em.mantissa + (if em.roundBit then 1 / 2 else 0) + rest

theorem represents_exact (m : Nat) :
    Represents (ExtendedMantissa.ofMantissaAndAccuracy m .exact) m :=
  ⟨0, le_rfl, by norm_num, by simp [ExtendedMantissa.ofMantissaAndAccuracy],
    by simp [ExtendedMantissa.ofMantissaAndAccuracy]⟩

theorem Represents.shiftRightOne {em : ExtendedMantissa} {q : ℚ} (h : Represents em q) :
    Represents em.shiftRightOne (q / 2) := by
  obtain ⟨m, roundBit, stickyBit⟩ := em
  obtain ⟨rest, hnonneg, hlt, hsticky, rfl⟩ := h
  -- The bit that was worth one half is worth one quarter now and belongs to the rest.
  refine ⟨(if roundBit then 1 / 4 else 0) + rest / 2, ?_, ?_, ?_, ?_⟩
  · cases roundBit <;> simp <;> linarith
  · cases roundBit <;> simp <;> linarith
  · cases roundBit with
    | false => simpa [ExtendedMantissa.shiftRightOne] using hsticky
    | true =>
        simp only [ExtendedMantissa.shiftRightOne, Bool.true_or, if_true, true_iff]
        linarith
  · obtain ⟨k, rfl | rfl⟩ := Nat.even_or_odd' m
    · have hhalf : 2 * k / 2 = k := by omega
      cases roundBit <;> simp [ExtendedMantissa.shiftRightOne, hhalf] <;> ring
    · have hhalf : (2 * k + 1) / 2 = k := by omega
      have hodd : (2 * k + 1) % 2 = 1 := by omega
      cases roundBit <;> simp [ExtendedMantissa.shiftRightOne, hhalf, hodd] <;> ring

theorem Represents.shiftRight {em : ExtendedMantissa} {q : ℚ} (h : Represents em q) (n : Nat) :
    Represents (em >>> n) (q / 2 ^ n) := by
  change Represents (n.repeat ExtendedMantissa.shiftRightOne em) _
  induction n with
  | zero => simpa [Nat.repeat] using h
  | succ n ih =>
      rw [Nat.repeat, pow_succ, ← div_div]
      exact ih.shiftRightOne

-- The two bits are enough to find the nearest integer.
theorem Represents.nearest {em : ExtendedMantissa} {q : ℚ} (h : Represents em q) :
    Nearest q em.roundedMantissa := by
  obtain ⟨m, roundBit, stickyBit⟩ := em
  obtain ⟨rest, hnonneg, hlt, hsticky, rfl⟩ := h
  cases roundBit with
  | false =>
      rw [if_neg Bool.false_ne_true, add_zero]
      cases stickyBit <;> exact Nearest.below hnonneg hlt
  | true =>
      rw [if_pos rfl]
      cases stickyBit with
      | false =>
          obtain rfl : rest = 0 := by simpa using hsticky
          rw [add_zero]
          exact Nearest.middle m
      | true => exact Nearest.above (lt_of_le_of_ne hnonneg (Ne.symm (hsticky.mp rfl))) hlt

end Bits

section Grid

theorem two_zpow_le {a b : ℤ} (h : a ≤ b) : (2 : ℚ) ^ a ≤ 2 ^ b :=
  zpow_le_zpow_right₀ one_le_two h

theorem two_zpow_add (a : ℤ) (n : Nat) : (2 : ℚ) ^ (a + n) = 2 ^ n * 2 ^ a := by
  rw [zpow_add₀ two_ne_zero, zpow_natCast, mul_comm]

-- The upper end of a grid is not above the leading bit of the next one.
theorem grid_le_grid {e e' : ℤ} (h : e < e') : (2 : ℚ) ^ 53 * 2 ^ e ≤ 2 ^ 52 * 2 ^ e' := by
  calc (2 : ℚ) ^ 53 * 2 ^ e = 2 ^ (e + (53 : Nat)) := (two_zpow_add e 53).symm
    _ ≤ 2 ^ (e' + (52 : Nat)) := two_zpow_le (by push_cast; omega)
    _ = 2 ^ 52 * 2 ^ e' := two_zpow_add e' 52

-- The grid that a number is rounded on has 53 places from its leading bit on, and is not finer than
-- that of the smallest doubles.
structure OnGrid (q : ℚ) (e : ℤ) : Prop where
  lt : q < 2 ^ (e + 53)
  least : -1074 ≤ e
  normal : -1074 < e → 2 ^ (e + 52) ≤ q

def Rounded (q v : ℚ) : Prop :=
  ∃ (e : ℤ) (n : ℤ), OnGrid q e ∧ Nearest (q / 2 ^ e) n ∧ v = n * 2 ^ e

theorem OnGrid.nearest_le {q : ℚ} {e n : ℤ} (h : OnGrid q e) (hn : Nearest (q / 2 ^ e) n) :
    n ≤ 2 ^ 53 := by
  refine hn.le ?_
  rw [div_le_iff₀ (by positivity)]
  calc q ≤ 2 ^ (e + (53 : Nat)) := h.lt.le
    _ = 2 ^ 53 * 2 ^ e := two_zpow_add e 53
    _ = ((2 ^ 53 : ℤ) : ℚ) * 2 ^ e := by norm_num

theorem OnGrid.le_nearest {q : ℚ} {e n : ℤ} (h : OnGrid q e) (hn : Nearest (q / 2 ^ e) n)
    (hnormal : -1074 < e) : 2 ^ 52 ≤ n := by
  refine hn.ge ?_
  rw [le_div_iff₀ (by positivity)]
  calc ((2 ^ 52 : ℤ) : ℚ) * 2 ^ e = 2 ^ 52 * 2 ^ e := by norm_num
    _ = 2 ^ (e + (52 : Nat)) := (two_zpow_add e 52).symm
    _ ≤ q := h.normal hnormal

-- Rounding keeps the order. On a coarser grid the doubles are not below those on a finer one.
theorem Rounded.mono {q q' v v' : ℚ} (h : Rounded q v) (h' : Rounded q' v') (hle : q ≤ q') :
    v ≤ v' := by
  obtain ⟨e, n, hgrid, hn, rfl⟩ := h
  obtain ⟨e', n', hgrid', hn', rfl⟩ := h'
  rcases lt_trichotomy e e' with hlt | rfl | hgt
  · have hupper : (n : ℚ) ≤ 2 ^ 53 := by exact_mod_cast hgrid.nearest_le hn
    have hlower : (2 : ℚ) ^ 52 ≤ n' := by
      exact_mod_cast hgrid'.le_nearest hn' (lt_of_le_of_lt hgrid.least hlt)
    calc (n : ℚ) * 2 ^ e ≤ 2 ^ 53 * 2 ^ e := by gcongr
      _ ≤ 2 ^ 52 * 2 ^ e' := grid_le_grid hlt
      _ ≤ n' * 2 ^ e' := by gcongr
  · have hnn : (n : ℚ) ≤ n' := by
      exact_mod_cast hn.mono hn' (by gcongr)
    gcongr
  · have hlow := hgrid.normal (lt_of_le_of_lt hgrid'.least hgt)
    have hhigh := hgrid'.lt
    have hpow : (2 : ℚ) ^ (e' + 53) ≤ 2 ^ (e + 52) := two_zpow_le (by omega)
    linarith

theorem Rounded.zero : Rounded 0 0 :=
  ⟨-1074, 0, ⟨by positivity, le_rfl, fun h => absurd h (lt_irrefl _)⟩,
    by simpa using Nearest.refl 0, by simp⟩

-- A number that is a double stays as it is.
theorem Rounded.refl {m : Nat} {e : ℤ} (hlt : m < 2 ^ 53) (hleast : -1074 ≤ e)
    (hnormal : -1074 < e → 2 ^ 52 ≤ m) : Rounded (m * 2 ^ e) (m * 2 ^ e) := by
  have hmantissa : (m : ℚ) < 2 ^ 53 := by exact_mod_cast hlt
  refine ⟨e, m, ⟨?_, hleast, fun h => ?_⟩, ?_, by simp⟩
  · calc (m : ℚ) * 2 ^ e < 2 ^ 53 * 2 ^ e := by gcongr
      _ = 2 ^ (e + (53 : Nat)) := (two_zpow_add e 53).symm
  · have hleading : (2 : ℚ) ^ 52 ≤ m := by exact_mod_cast hnormal h
    calc (2 : ℚ) ^ (e + (52 : Nat)) = 2 ^ 52 * 2 ^ e := two_zpow_add e 52
      _ ≤ m * 2 ^ e := by gcongr
  · rw [mul_div_cancel_right₀ _ (by positivity)]
    exact Nearest.refl m

-- A short binary fraction is a double.
theorem rounded_dyadic {n : Nat} {t : ℤ} (hn : n < 2 ^ 53) (ht : -1074 ≤ t) :
    Rounded (n * 2 ^ t) (n * 2 ^ t) := by
  rcases Nat.eq_zero_or_pos n with rfl | hpos
  · simpa using Rounded.zero
  · have hlog : n.log2 ≤ 52 := Nat.lt_succ_iff.mp ((Nat.log2_lt hpos.ne').mpr hn)
    obtain ⟨shift, hshift, hleast, hnormal⟩ : ∃ shift : Nat, shift ≤ 52 - n.log2 ∧
        -1074 ≤ t - shift ∧ (-1074 < t - shift → shift = 52 - n.log2) :=
      ⟨min (52 - n.log2) (t + 1074).toNat, by omega, by omega, by omega⟩
    have hupper : n * 2 ^ shift < 2 ^ 53 := by
      calc n * 2 ^ shift < 2 ^ (n.log2 + 1) * 2 ^ shift :=
            Nat.mul_lt_mul_of_pos_right Nat.lt_log2_self (by positivity)
        _ = 2 ^ (n.log2 + 1 + shift) := (pow_add ..).symm
        _ ≤ 2 ^ 53 := Nat.pow_le_pow_right (by norm_num) (by omega)
    have hlower : -1074 < t - shift → 2 ^ 52 ≤ n * 2 ^ shift := by
      intro hlarge
      calc 2 ^ 52 = 2 ^ n.log2 * 2 ^ shift := by
            rw [← pow_add]
            congr 1
            rw [hnormal hlarge]
            omega
        _ ≤ n * 2 ^ shift := Nat.mul_le_mul_right _ (Nat.log2_self_le hpos.ne')
    have hvalue : ((n * 2 ^ shift : Nat) : ℚ) * 2 ^ (t - shift) = n * 2 ^ t := by
      have hsplit : (2 : ℚ) ^ t = 2 ^ shift * 2 ^ (t - shift) := by
        rw [← two_zpow_add, sub_add_cancel]
      rw [hsplit]
      push_cast
      ring
    have hrounded := Rounded.refl hupper hleast hlower
    rwa [hvalue] at hrounded

end Grid

section Round

theorem targetExponent_eq (position : ℤ) :
    Format.binary64.targetExponent position = max (position - 53) (-1074) := rfl

-- The grid is chosen by the leading bit of the mantissa.
theorem onGrid_targetExponent {m : Nat} {e : ℤ} {q : ℚ} (hm : 0 < m) (hlower : m * 2 ^ e ≤ q)
    (hupper : q < (m + 1) * 2 ^ e) :
    OnGrid q (Format.binary64.targetExponent (totalExponent m e)) := by
  rw [targetExponent_eq, totalExponent]
  have hleading : (2 : ℚ) ^ m.log2 ≤ m := by exact_mod_cast Nat.log2_self_le hm.ne'
  have hnext : (m : ℚ) + 1 ≤ 2 ^ (m.log2 + 1) := by exact_mod_cast Nat.lt_log2_self
  refine ⟨?_, le_max_right _ _, fun hnormal => ?_⟩
  · calc q < (m + 1) * 2 ^ e := hupper
      _ ≤ 2 ^ (m.log2 + 1) * 2 ^ e := by gcongr
      _ = 2 ^ (e + (m.log2 + 1 : Nat)) := (two_zpow_add e _).symm
      _ ≤ _ := two_zpow_le (by push_cast; omega)
  · calc (2 : ℚ) ^ (max ((m.log2 : ℤ) + 1 + e - 53) (-1074) + 52) ≤ 2 ^ (e + (m.log2 : Nat)) :=
          two_zpow_le (by omega)
      _ = 2 ^ m.log2 * 2 ^ e := two_zpow_add e _
      _ ≤ m * 2 ^ e := by gcongr
      _ ≤ q := hlower

-- A sign with a magnitude on the grid of the doubles, which may be too large for one.
inductive Holds (s : Sign) (v : ℚ) : UnpackedFloat → Prop where
  | zero (hv : v = 0) : Holds s v (.zero s)
  | finite {m : Nat} {e : ℤ} {hm : 0 < m} (hv : v = m * 2 ^ e) (hlt : m < 2 ^ 53)
      (hleast : -1074 ≤ e) (hnormal : -1074 < e → 2 ^ 52 ≤ m) : Holds s v (.finite s m e hm)

theorem shiftToTargetExponent_eq {m : Nat} {e : ℤ} {acc : Accuracy}
    (he : e ≤ Format.binary64.targetExponent (totalExponent m e)) :
    shiftToTargetExponent Format.binary64 m e acc =
      (ExtendedMantissa.ofMantissaAndAccuracy m acc >>>
        (Format.binary64.targetExponent (totalExponent m e) - e).toNat,
        Format.binary64.targetExponent (totalExponent m e)) := by
  simp only [shiftToTargetExponent, shiftToExponent, Prod.mk.injEq, true_and]
  omega

-- A mantissa that was rounded up to the next power of two moves to the next grid; any other one is
-- on its grid already.
theorem shiftToTargetExponent_rounded {n : Nat} {e : ℤ} (hle : n ≤ 2 ^ 53) (hleast : -1074 ≤ e)
    (hnormal : -1074 < e → 2 ^ 52 ≤ n) :
    (n < 2 ^ 53 ∧ shiftToTargetExponent Format.binary64 n e .exact = (⟨n, false, false⟩, e)) ∨
      (n = 2 ^ 53 ∧
        shiftToTargetExponent Format.binary64 n e .exact = (⟨2 ^ 52, false, false⟩, e + 1)) := by
  rcases Nat.lt_or_eq_of_le hle with hlt | rfl
  · refine .inl ⟨hlt, ?_⟩
    have htarget : Format.binary64.targetExponent (totalExponent n e) = e := by
      have hupper : n.log2 ≤ 52 := by
        rcases Nat.eq_zero_or_pos n with rfl | hpos
        · decide
        · exact Nat.lt_succ_iff.mp ((Nat.log2_lt hpos.ne').mpr hlt)
      have hlower : -1074 < e → 52 ≤ n.log2 := fun h =>
        (Nat.le_log2 (by have := hnormal h; omega)).mpr (hnormal h)
      rw [targetExponent_eq, totalExponent]
      omega
    rw [shiftToTargetExponent_eq htarget.ge, htarget, sub_self]
    rfl
  · refine .inr ⟨rfl, ?_⟩
    have htarget : Format.binary64.targetExponent (totalExponent (2 ^ 53) e) = e + 1 := by
      rw [targetExponent_eq, totalExponent, Nat.log2_two_pow]
      omega
    rw [shiftToTargetExponent_eq (by omega), htarget, add_sub_cancel_left]
    rfl

theorem Represents.bounds {em : ExtendedMantissa} {q : ℚ} (h : Represents em q) :
    em.mantissa ≤ q ∧ q < em.mantissa + 1 := by
  obtain ⟨rest, hnonneg, hlt, -, rfl⟩ := h
  split <;> constructor <;> linarith

theorem ofMantissaAndAccuracy_mantissa (m : Nat) (acc : Accuracy) :
    (ExtendedMantissa.ofMantissaAndAccuracy m acc).mantissa = m := by
  unfold ExtendedMantissa.ofMantissaAndAccuracy
  split <;> rfl

-- The double that a mantissa makes once it is on its grid.
def settled (s : Sign) (shifted : ExtendedMantissa × ℤ) : UnpackedFloat :=
  if h : shifted.1.mantissa = 0 then .zero s
  else .finite s shifted.1.mantissa shifted.2 (Nat.pos_of_ne_zero h)

theorem roundWithAccuracy_eq (s : Sign) (m : Nat) (e : ℤ) (acc : Accuracy) :
    roundWithAccuracy Format.binary64 s m e acc =
      settled s (shiftToTargetExponent Format.binary64
        (shiftToTargetExponent Format.binary64 m e acc).1.roundedMantissa
        (shiftToTargetExponent Format.binary64 m e acc).2 .exact) := rfl

theorem settled_holds (s : Sign) {n : Nat} {e : ℤ} (hle : n ≤ 2 ^ 53) (hleast : -1074 ≤ e)
    (hnormal : -1074 < e → 2 ^ 52 ≤ n) :
    Holds s (n * 2 ^ e) (settled s (shiftToTargetExponent Format.binary64 n e .exact)) := by
  rcases shiftToTargetExponent_rounded hle hleast hnormal with ⟨hlt, hshift⟩ | ⟨rfl, hshift⟩
  · rw [hshift, settled]
    split
    · next hzero => exact .zero (by simp [show n = 0 from hzero])
    · exact .finite rfl hlt hleast hnormal
  · rw [hshift, settled, dif_neg (by norm_num)]
    refine .finite ?_ (by norm_num) (by omega) fun _ => le_rfl
    rw [zpow_add_one₀ two_ne_zero]
    norm_num
    ring

-- On the grid that its mantissa is brought to, a number is rounded to the nearest double.
theorem roundWithAccuracy_onGrid (s : Sign) {m : Nat} {e : ℤ} {acc : Accuracy} {q : ℚ}
    (he : e ≤ Format.binary64.targetExponent (totalExponent m e))
    (hgrid : OnGrid q (Format.binary64.targetExponent (totalExponent m e)))
    (hq : Represents (ExtendedMantissa.ofMantissaAndAccuracy m acc) (q / 2 ^ e)) :
    ∃ v, Rounded q v ∧ Holds s v (roundWithAccuracy Format.binary64 s m e acc) := by
  have hshifted := hq.shiftRight (Format.binary64.targetExponent (totalExponent m e) - e).toNat
  rw [roundWithAccuracy_eq, shiftToTargetExponent_eq he]
  generalize Format.binary64.targetExponent (totalExponent m e) = target at he hgrid hshifted ⊢
  have hscale : q / 2 ^ e / 2 ^ (target - e).toNat = q / 2 ^ target := by
    rw [div_div, ← zpow_natCast, ← zpow_add₀ two_ne_zero]
    congr 2
    omega
  rw [hscale] at hshifted
  have hnearest := hshifted.nearest
  refine ⟨_, ⟨target, _, hgrid, hnearest, rfl⟩, ?_⟩
  refine settled_holds s ?_ hgrid.least fun hnormal => ?_
  · exact_mod_cast hgrid.nearest_le hnearest
  · exact_mod_cast hgrid.le_nearest hnearest hnormal

-- A mantissa that is not too short is brought to the grid of the number.
theorem roundWithAccuracy_holds (s : Sign) {m : Nat} {e : ℤ} {acc : Accuracy} {q : ℚ} (hm : 0 < m)
    (he : e ≤ Format.binary64.targetExponent (totalExponent m e))
    (hq : Represents (ExtendedMantissa.ofMantissaAndAccuracy m acc) (q / 2 ^ e)) :
    ∃ v, Rounded q v ∧ Holds s v (roundWithAccuracy Format.binary64 s m e acc) := by
  have hbounds := hq.bounds
  rw [ofMantissaAndAccuracy_mantissa, le_div_iff₀ (by positivity), div_lt_iff₀ (by positivity)]
    at hbounds
  exact roundWithAccuracy_onGrid s he (onGrid_targetExponent hm hbounds.1 hbounds.2) hq

theorem roundWithAccuracy_exact (s : Sign) {m : Nat} {e : ℤ} (hm : 0 < m)
    (he : e ≤ Format.binary64.targetExponent (totalExponent m e)) :
    ∃ v, Rounded (m * 2 ^ e) v ∧ Holds s v (roundWithAccuracy Format.binary64 s m e .exact) := by
  refine roundWithAccuracy_holds s hm he ?_
  rw [mul_div_cancel_right₀ _ (by positivity)]
  exact represents_exact m

theorem log2_shiftLeft {m : Nat} (hm : 0 < m) (n : Nat) : (m <<< n).log2 = m.log2 + n := by
  induction n with
  | zero => rfl
  | succ n ih =>
      have hpos : 0 < m <<< n := Nat.shiftLeft_pos_iff.mpr hm
      rw [Nat.shiftLeft_succ, Nat.log2_two_mul hpos.ne', ih, Nat.add_assoc]

-- A mantissa that is too short is made longer first.
theorem round_holds (s : Sign) {m : Nat} (e : ℤ) (hm : 0 < m) :
    ∃ v, Rounded (m * 2 ^ e) v ∧ Holds s v (UnpackedFloat.round Format.binary64 s m e) := by
  simp only [UnpackedFloat.round, decreaseExponent]
  generalize hn : (e - Format.binary64.targetExponent (totalExponent m e)).toNat = n
  have hlonger : 0 < m <<< n := Nat.shiftLeft_pos_iff.mpr hm
  have htotal : totalExponent (m <<< n) (e - n) = totalExponent m e := by
    rw [totalExponent, totalExponent, log2_shiftLeft hm]
    push_cast
    ring
  have hvalue : ((m <<< n : Nat) : ℚ) * 2 ^ (e - n) = m * 2 ^ e := by
    rw [Nat.shiftLeft_eq, zpow_sub₀ two_ne_zero, zpow_natCast]
    push_cast
    field_simp
  rw [← hvalue]
  exact roundWithAccuracy_exact s hlonger (by rw [htotal]; omega)

end Round

end Datacube.Number

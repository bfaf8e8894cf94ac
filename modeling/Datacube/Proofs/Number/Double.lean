import Datacube.Number.Shortest
import Mathlib.Algebra.Order.Field.Power

-- Doubles taken apart: the mantissas and exponents that occur, and how they are ordered.
namespace Datacube.Number

open Float.Model (UnpackedFloat Format)
open Float.Model.UnpackedFloat

-- The mantissa and exponent of a double. Only at the least exponent may the leading bit be missing.
structure Canonical (m : Nat) (e : Int) : Prop where
  pos : 0 < m
  lt : m < 2 ^ 53
  least : -1074 ≤ e
  greatest : e ≤ 971
  normal : -1074 < e → 2 ^ 52 ≤ m

theorem toNat_append_one (f : BitVec 52) : (1#1 ++ f).toNat = 2 ^ 52 + f.toNat := by
  rw [BitVec.toNat_append, ← Nat.shiftLeft_add_eq_or_of_lt f.isLt]
  simp [Nat.shiftLeft_eq]

theorem canonical_of_parts {x : Float} {s : Sign} {m : Nat} {e : Int} {hm : 0 < m}
    (h : parts x = .finite s m e hm) : Canonical m e := by
  unfold parts unpack at h
  generalize x.toBits.toBitVec = bits at h
  have hfraction := (@unpackMantissa Format.binary64 bits).isLt
  have hexponent := (@unpackExponent Format.binary64 bits).isLt
  have hbias : Format.binary64.exponentBias = 1023 := rfl
  dsimp only at h hfraction hexponent
  by_cases hspecial : @unpackExponent Format.binary64 bits = -1#_
  · rw [if_pos hspecial] at h
    by_cases hnone : @unpackMantissa Format.binary64 bits = 0#_
    · rw [if_pos hnone] at h
      cases h
    · rw [if_neg hnone] at h
      cases h
  · rw [if_neg hspecial] at h
    by_cases hzero : @unpackExponent Format.binary64 bits = 0#_
    · rw [if_pos hzero] at h
      by_cases hnone : @unpackMantissa Format.binary64 bits = 0#_
      · rw [dif_pos hnone] at h
        cases h
      · -- No leading bit: the exponent is the least one.
        rw [dif_neg hnone] at h
        cases h
        rw [hzero]
        exact ⟨hm, by omega, by simp [hbias], by simp [hbias], by simp [hbias]⟩
    · -- A leading bit in front of the fraction.
      rw [if_neg hzero] at h
      cases h
      have hpositive : (@unpackExponent Format.binary64 bits).toNat ≠ 0 :=
        fun h0 => hzero (BitVec.eq_of_toNat_eq h0)
      have hbounded : (@unpackExponent Format.binary64 bits).toNat ≠ 2047 :=
        fun h0 => hspecial (BitVec.eq_of_toNat_eq h0)
      have hmantissa := toNat_append_one (@unpackMantissa Format.binary64 bits)
      constructor <;> simp [hbias] <;> omega

theorem le_iff_compare {x y : Float} :
    x ≤ y ↔ ((parts x).compare (parts y)).any (·.isLE) = true := by
  change (decide (x.toModel ≤ y.toModel)) = true ↔ _
  rw [decide_eq_true_iff]
  exact .rfl

theorem lt_iff_compare {x y : Float} : x < y ↔ (parts x).compare (parts y) = some .lt := by
  change (decide (x.toModel < y.toModel)) = true ↔ _
  rw [decide_eq_true_iff]
  change ((parts x).compare (parts y) == some .lt) = true ↔ _
  exact beq_iff_eq

-- Exponents are compared first, then mantissas.
theorem compare_then_swap (m m' : Nat) (e e' : Int) :
    (compare e' e).then (compare m' m) = ((compare e e').then (compare m m')).swap := by
  rw [Ordering.swap_then, ← Std.OrientedCmp.eq_swap, ← Std.OrientedCmp.eq_swap]

theorem compare_swap {a b : UnpackedFloat} (ha : a.isFinite = true) (hb : b.isFinite = true) :
    ∃ o, a.compare b = some o ∧ b.compare a = some o.swap := by
  cases a with
  | notANumber | infinity _ => exact absurd ha Bool.false_ne_true
  | zero s =>
      cases b with
      | notANumber | infinity _ => exact absurd hb Bool.false_ne_true
      | zero s' => exact ⟨.eq, rfl, rfl⟩
      | finite s' m' e' hm' => cases s' <;> exact ⟨_, rfl, rfl⟩
  | finite s m e hm =>
      cases b with
      | notANumber | infinity _ => exact absurd hb Bool.false_ne_true
      | zero s' => cases s <;> exact ⟨_, rfl, rfl⟩
      | finite s' m' e' hm' =>
          have hswap := compare_then_swap m m' e e'
          cases s with
          | positive =>
              cases s' with
              | positive => exact ⟨_, rfl, congrArg some hswap⟩
              | negative => exact ⟨_, rfl, rfl⟩
          | negative =>
              cases s' with
              | positive => exact ⟨_, rfl, rfl⟩
              | negative => exact ⟨_, rfl, congrArg some (congrArg Ordering.swap hswap)⟩

-- Finite doubles are ordered one way or the other.
theorem le_of_not_lt {x y : Float} (hx : x.isFinite = true) (hy : y.isFinite = true)
    (h : ¬y < x) : x ≤ y := by
  obtain ⟨o, hxy, hyx⟩ : ∃ o, (parts x).compare (parts y) = some o ∧
      (parts y).compare (parts x) = some o.swap := compare_swap hx hy
  rw [lt_iff_compare, hyx] at h
  rw [le_iff_compare, hxy]
  cases o <;> simp_all

end Datacube.Number

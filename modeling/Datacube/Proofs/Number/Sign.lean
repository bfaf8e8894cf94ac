import Datacube.Number.Decimal
import Datacube.Proofs.Number.Numeral

-- Doubles made from numbers that are not negative are not negative either.
namespace Datacube.Number

open Float.Model (Format UnpackedFloat)
open Float.Model.UnpackedFloat

def NotNegative (u : UnpackedFloat) : Prop :=
  u = .notANumber ∨ Signed .positive u

theorem NotNegative.value_nonneg {u : UnpackedFloat} (h : NotNegative u) : 0 ≤ value u := by
  rcases h with rfl | h
  · exact le_rfl
  · exact h.value_nonneg

theorem NotNegative.stored {u : UnpackedFloat} (h : NotNegative u) :
    NotNegative (Number.stored u) := by
  rcases h with rfl | h
  · exact .inl stored_notANumber
  · exact .inr h.stored

theorem notNegative_mul {a b : UnpackedFloat} (ha : NotNegative a) (hb : NotNegative b) :
    NotNegative (mul Format.binary64 a b) := by
  rcases ha with rfl | ha
  · exact .inl rfl
  rcases hb with rfl | hb
  · cases a <;> exact .inl rfl
  cases ha with
  | infinity => cases hb <;> first | exact .inl rfl | exact .inr .infinity
  | zero => cases hb <;> first | exact .inl rfl | exact .inr .zero
  | finite m e hm =>
      cases hb with
      | infinity => exact .inr .infinity
      | zero => exact .inr .zero
      | finite m' e' hm' => exact .inr (roundWithAccuracy_signed .positive _ _ _)

theorem notNegative_div {a b : UnpackedFloat} (ha : NotNegative a) (hb : NotNegative b) :
    NotNegative (div Format.binary64 a b) := by
  rcases ha with rfl | ha
  · exact .inl rfl
  rcases hb with rfl | hb
  · cases a <;> exact .inl rfl
  cases ha with
  | infinity => cases hb <;> first | exact .inl rfl | exact .inr .infinity
  | zero => cases hb <;> first | exact .inl rfl | exact .inr .zero
  | finite m e hm =>
      cases hb with
      | infinity => exact .inr .zero
      | zero => exact .inr .infinity
      | finite m' e' hm' => exact .inr (roundWithAccuracy_signed .positive _ _ _)

theorem notNegative_ofScientific (n : Nat) (e : ℤ) :
    NotNegative (ofScientific Format.binary64 n e) := by
  unfold UnpackedFloat.ofScientific
  split
  · exact .inr .zero
  · split
    · exact .inr .infinity
    · split
      · exact .inr .zero
      · split
        · exact notNegative_mul (.inr (.finite _ _ _)) (.inr (.finite _ _ _))
        · exact notNegative_div (.inr (.finite _ _ _)) (.inr (.finite _ _ _))

theorem notNegative_toFloat (n : UInt64) : NotNegative (parts n.toFloat) := by
  rw [parts_toFloat]
  refine .stored (.inr ?_)
  unfold UnpackedFloat.normalize
  split
  · next hlt => exact absurd (compare_lt_iff_lt.mp hlt) (by omega)
  · exact .zero
  · exact roundWithAccuracy_signed .positive _ _ _

theorem notNegative_power {i : Nat} (hi : i < Float.exactlyRepresentablePowersOfTen.size) :
    NotNegative (parts Float.exactlyRepresentablePowersOfTen[i]) := by
  obtain ⟨m, e, hm, hparts, -⟩ := parts_power hi
  rw [hparts]
  exact .inr (.finite m e hm)

theorem notNegative_floatOfScientific (n : Nat) (negative : Bool) (e : Nat) :
    NotNegative (parts (Float.ofScientific n negative e)) := by
  by_cases h : n < 2 ^ 53 ∧ e ≤ 22
  · have he : e < Float.exactlyRepresentablePowersOfTen.size := Nat.lt_succ_of_le h.2
    have hpower := notNegative_power he
    rw [ofScientific_small negative h.1 he]
    split
    · rw [parts_div]
      exact (notNegative_div (notNegative_toFloat _) hpower).stored
    · rw [parts_mul]
      exact (notNegative_mul (notNegative_toFloat _) hpower).stored
  · rw [parts_ofScientific_large negative h]
    exact (notNegative_ofScientific n _).stored

namespace Decimal

theorem notNegative_factor {acc x : Float} (c : Prop) [Decidable c]
    (hacc : NotNegative (parts acc)) (hx : NotNegative (parts x)) :
    NotNegative (parts (if c then acc * x else acc)) := by
  split
  · exact (notNegative_mul hacc hx).stored
  · exact hacc

theorem notNegative_floatPower {acc x : Float} (n : Nat) (hacc : NotNegative (parts acc))
    (hx : NotNegative (parts x)) : NotNegative (parts (floatPower acc x n)) := by
  fun_induction floatPower acc x n with
  | case1 acc x n next hlast => exact notNegative_factor (n % 2 = 1) hacc hx
  | case2 acc x n next hmore ih =>
      exact ih (notNegative_factor (n % 2 = 1) hacc hx) (notNegative_mul hx hx).stored

-- A decimal that is not negative gives a double that is not negative.
theorem value_toFloat_nonneg {d : Decimal} (h : 0 ≤ d.digits) : 0 ≤ value (parts d.toFloat) := by
  apply NotNegative.value_nonneg
  unfold toFloat
  generalize (if d.scale = 0 then _ else _) = leading
  simp only [if_neg (not_lt.mpr h)]
  split
  · rw [parts_mul]
    have hone : NotNegative (parts 1.0) := notNegative_floatOfScientific 10 true 1
    have hten : NotNegative (parts 10.0) := notNegative_floatOfScientific 100 true 1
    have hpower := notNegative_floatPower (leading.2 - d.scale) hone hten
    exact (notNegative_mul (notNegative_floatOfScientific leading.1 false 0) hpower).stored
  · exact notNegative_floatOfScientific _ true _

end Decimal

end Datacube.Number

import Datacube.Proofs.Number.Sign
import Datacube.Proofs.Number.Whole

-- Integers of any size, their texts and the doubles next to them.
namespace Datacube.Number

open Float.Model (UnpackedFloat)
open Float.Model.UnpackedFloat

section Value

variable {u u' : UnpackedFloat}

theorem Proper.eq_of_value_pos (hu : Proper u) (hu' : Proper u') (h : value u = value u')
    (hpos : 0 < value u) : u = u' := by
  have hlimit := limit_pos
  cases hu with
  | infinity s =>
      cases s with
      | negative => exact absurd hpos (not_lt.mpr (neg_nonpos.mpr hlimit.le))
      | positive =>
          cases hu' with
          | infinity s' =>
              cases s' with
              | positive => rfl
              | negative => exact absurd h (neg_lt_self hlimit).ne'
          | zero s' => exact absurd h hlimit.ne'
          | finite s' hc => exact absurd h (abs_value_lt s' hc).2.ne'
  | zero s => exact absurd hpos (lt_irrefl 0)
  | finite s hc =>
      cases s with
      | positive => exact (eq_finite_of_value hu' hc h.symm).symm
      | negative => exact absurd hpos (not_lt.mpr (neg_nonpos.mpr hc.value_pos.le))

theorem neg_involutive : Function.Involutive UnpackedFloat.neg := by
  intro u
  cases u with
  | notANumber => rfl
  | infinity s | zero s | finite s m e hm => cases s <;> rfl

-- Only the zeros of both signs are worth the same.
theorem Proper.eq_of_value (hu : Proper u) (hu' : Proper u') (h : value u = value u')
    (hne : value u ≠ 0) : u = u' := by
  rcases lt_or_gt_of_ne hne with hneg | hpos
  · have hswapped := hu.neg.eq_of_value_pos hu'.neg (by rw [value_neg, value_neg, h])
      (by rw [value_neg]; exact neg_pos.mpr hneg)
    rw [← neg_involutive u, hswapped, neg_involutive]
  · exact hu.eq_of_value_pos hu' h hpos

end Value

section Nearest

variable {a b n : ℤ}

theorem ofInt_number (n : ℤ) : parts (Float.ofInt n) ≠ .notANumber :=
  (near_ofInt n).number

theorem value_ofInt_mono (h : a ≤ b) :
    value (parts (Float.ofInt a)) ≤ value (parts (Float.ofInt b)) :=
  (near_ofInt a).value_le (near_ofInt b) (Int.cast_le.mpr h)

theorem value_ofInt (hn : n.natAbs < 2 ^ 53) : value (parts (Float.ofInt n)) = n :=
  (near_ofInt n).value_intCast hn

theorem eq_zero_of_value_ofInt (h : value (parts (Float.ofInt n)) = 0) : n = 0 := by
  by_contra hne
  rcases lt_or_gt_of_ne hne with hneg | hpos
  · have hle := value_ofInt_mono (show n ≤ -1 by omega)
    rw [h, value_ofInt (by decide)] at hle
    norm_num at hle
  · have hle := value_ofInt_mono (show 1 ≤ n by omega)
    rw [h, value_ofInt (by decide)] at hle
    norm_num at hle

-- No integer goes to the negative zero, so that worth the same is the same.
theorem ofInt_eq_of_value (h : value (parts (Float.ofInt a)) = value (parts (Float.ofInt b))) :
    Float.ofInt a = Float.ofInt b := by
  by_cases hzero : value (parts (Float.ofInt a)) = 0
  · rw [eq_zero_of_value_ofInt hzero, eq_zero_of_value_ofInt (h.symm.trans hzero)]
  · exact eq_of_parts (ofInt_number a) ((proper_of_parts (ofInt_number a)).eq_of_value
      (proper_of_parts (ofInt_number b)) h hzero)

theorem ofInt_le_iff_value :
    Float.ofInt a ≤ Float.ofInt b ↔
      value (parts (Float.ofInt a)) ≤ value (parts (Float.ofInt b)) :=
  le_iff_value (ofInt_number a) (ofInt_number b)

theorem ofInt_mono (h : a ≤ b) : Float.ofInt a ≤ Float.ofInt b :=
  ofInt_le_iff_value.mpr (value_ofInt_mono h)

theorem ofInt_antisymm (h : a ≤ b) (hle : Float.ofInt b ≤ Float.ofInt a) :
    Float.ofInt b = Float.ofInt a :=
  ofInt_eq_of_value (le_antisymm (ofInt_le_iff_value.mp hle) (value_ofInt_mono h))

theorem isNaN_ofInt (n : ℤ) : (Float.ofInt n).isNaN = false :=
  Bool.eq_false_iff.mpr (mt isNaN_iff.mp (ofInt_number n))

-- The smaller of two doubles next to integers is the one next to the smaller integer.
theorem leastFloat_ofInt (a b : ℤ) :
    leastFloat (Float.ofInt a) (Float.ofInt b) = Float.ofInt (min a b) := by
  simp only [leastFloat, isNaN_ofInt, Bool.false_or, decide_eq_true_eq]
  rcases le_total a b with h | h
  · rw [min_eq_left h]
    split
    · next hle => exact ofInt_antisymm h hle
    · rfl
  · rw [min_eq_right h, if_pos (ofInt_mono h)]

theorem greatestFloat_ofInt (a b : ℤ) :
    greatestFloat (Float.ofInt a) (Float.ofInt b) = Float.ofInt (max a b) := by
  simp only [greatestFloat, isNaN_ofInt, Bool.false_or, decide_eq_true_eq, ge_iff_le]
  rcases le_total a b with h | h
  · rw [max_eq_right h, if_pos (ofInt_mono h)]
  · rw [max_eq_left h]
    split
    · next hle => exact (ofInt_antisymm h hle).symm
    · rfl

-- Nothing yet, in either direction: every integer counts.
theorem leastFloat_infinity (n : ℤ) : leastFloat infinity (Float.ofInt n) = Float.ofInt n := by
  have hparts : parts infinity = .infinity .positive := rfl
  have hle : Float.ofInt n ≤ infinity := by
    rw [le_iff_value (ofInt_number n) (by rw [hparts]; exact UnpackedFloat.noConfusion), hparts]
    exact (proper_of_parts (ofInt_number n)).value_le_limit.2
  simp [leastFloat, hle]

theorem greatestFloat_infinity (n : ℤ) :
    greatestFloat (-infinity) (Float.ofInt n) = Float.ofInt n := by
  have hparts : parts (-infinity) = .infinity .negative := rfl
  have hle : -infinity ≤ Float.ofInt n := by
    rw [le_iff_value (by rw [hparts]; exact UnpackedFloat.noConfusion) (ofInt_number n), hparts]
    exact (proper_of_parts (ofInt_number n)).value_le_limit.1
  simp [greatestFloat, hle]

end Nearest

section Text

theorem intText_negSucc (k : Nat) :
    intText (.negSucc k) = String.ofList ('-' :: Nat.toDigits 10 (k + 1)) := by
  simp [intText, natText]

-- The text of an integer is read as the double next to it.
theorem parseFloat_intText (n : ℤ) : parseFloat (intText n) = some (Float.ofInt n) := by
  have hread : ∀ (k : Nat) (negative : Bool),
      parseFloat (String.ofList (if negative then '-' :: Nat.toDigits 10 k
        else Nat.toDigits 10 k)) =
        some (if negative then -Float.ofNat k else Float.ofNat k) := by
    intro k negative
    obtain ⟨whole, fraction, hdigits⟩ := positional_placePoint k 0
    exact hdigits.parseFloat negative
  cases n with
  | ofNat k => exact hread k false
  | negSucc k =>
      rw [intText_negSucc]
      exact hread (k + 1) true

theorem ofScientific_shortest {m k : Nat} {e : ℤ} (h : Canonical m e) (hk : k < 2 ^ 53)
    (hvalue : (m : ℚ) * 2 ^ e = k) : Decimal.ofScientific false (shortest m e) = ⟨k, 0⟩ := by
  have hscale : (Decimal.ofScientific false (shortest m e)).scale = 0 := by
    have hexponent := shortest_exponent_nonneg h hk hvalue
    exact Int.toNat_of_nonpos (by omega)
  have hrat := Decimal.toRat_ofScientific false (shortest m e)
  rw [if_neg Bool.false_ne_true, shortest_natCast h hk hvalue] at hrat
  generalize Decimal.ofScientific false (shortest m e) = d at hscale hrat
  obtain ⟨digits, scale⟩ := d
  obtain rfl : scale = 0 := hscale
  rw [Decimal.toRat_whole] at hrat
  obtain rfl : digits = k := by exact_mod_cast hrat
  rfl

theorem floatText_ofInt_of_lt {n : ℤ} (hn : n.natAbs < 2 ^ 53) :
    floatText (Float.ofInt n) = intText n := by
  rcases eq_or_ne n 0 with rfl | hne
  · decide +kernel
  have hvalue := value_ofInt hn
  have hfinite := isFinite_of_intCast (ofInt_number n) hn hvalue
  unfold floatText
  cases hparts : parts (Float.ofInt n) with
  | notANumber | infinity s =>
      rw [hparts] at hfinite
      exact absurd hfinite Bool.false_ne_true
  | zero s => exact absurd (eq_zero_of_value_ofInt (by rw [hparts]; rfl)) hne
  | finite s m e hm =>
      have hcanonical := canonical_of_parts hparts
      have hpos := hcanonical.value_pos
      rw [hparts, value] at hvalue
      -- The sign of the double is that of the integer.
      cases n with
      | ofNat k =>
          cases s with
          | positive =>
              have hdecimal := ofScientific_shortest (k := k) hcanonical hn hvalue
              simp [hdecimal, Decimal.placePoint, intText, natText]
          | negative =>
              have hnonneg : (0 : ℚ) ≤ (Int.ofNat k : ℤ) := Int.cast_nonneg (Int.natCast_nonneg k)
              rw [← hvalue, withSign] at hnonneg
              linarith
      | negSucc k =>
          rw [Int.cast_negSucc] at hvalue
          cases s with
          | positive =>
              rw [withSign] at hvalue
              have hk : (0 : ℚ) ≤ (k + 1 : Nat) := Nat.cast_nonneg _
              linarith
          | negative =>
              have hdecimal := ofScientific_shortest (k := k + 1) hcanonical hn
                (neg_injective hvalue)
              simp only [hdecimal, Int.natAbs_natCast, Decimal.placePoint, if_true,
                intText_negSucc]

-- Up to 2 ^ 53 the text of the double is that of the integer.
theorem floatText_ofInt {n : ℤ} (hn : n.natAbs ≤ 2 ^ 53) :
    floatText (Float.ofInt n) = intText n := by
  rcases hn.lt_or_eq with hlt | heq
  · exact floatText_ofInt_of_lt hlt
  · rcases Int.natAbs_eq n with hn | hn
    · rw [hn, heq]
      decide +kernel
    · rw [hn, heq]
      decide +kernel

end Text

end Datacube.Number

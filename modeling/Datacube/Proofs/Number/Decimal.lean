import Datacube.Number.Decimal
import Datacube.Proofs.Number.Shortest
import Mathlib.Tactic.FieldSimp

-- Decimals as rational numbers: the order of doubles is kept, and a quotient that is rounded up
-- covers its dividend.
namespace Datacube.Number

open Float.Model.UnpackedFloat (Sign)

theorem Scientific.toRat_nonneg (s : Scientific) : 0 ≤ s.toRat := by
  unfold Scientific.toRat
  positivity

namespace Decimal

def toRat (d : Decimal) : ℚ :=
  d.digits / 10 ^ d.scale

theorem toRat_ofScientific (negative : Bool) (s : Scientific) :
    (ofScientific negative s).toRat = if negative then -s.toRat else s.toRat := by
  have hsplit : (10 : ℚ) ^ s.exponent * 10 ^ (-s.exponent).toNat = 10 ^ s.exponent.toNat := by
    rw [← zpow_natCast, ← zpow_natCast, ← zpow_add₀ (by norm_num)]
    congr 1
    omega
  have hvalue : ((s.digits * tenTo s.exponent.toNat : Nat) : ℚ) / 10 ^ (-s.exponent).toNat =
      s.toRat := by
    rw [div_eq_iff (by positivity), Scientific.toRat, mul_assoc, hsplit]
    simp [tenTo]
  cases negative with
  | false => simpa [toRat, ofScientific, signed] using hvalue
  | true =>
      simp only [toRat, ofScientific, signed, if_true, Int.cast_neg, neg_div, Int.cast_natCast,
        hvalue]

theorem toRat_sub (a b : Decimal) : (a.sub b).toRat = a.toRat - b.toRat := by
  have hat : ∀ (d : Decimal) (scale : Nat), d.scale ≤ scale →
      (d.digitsAt scale : ℚ) / 10 ^ scale = d.toRat := by
    intro d scale hle
    obtain ⟨more, rfl⟩ := Nat.exists_eq_add_of_le hle
    simp only [digitsAt, tenTo, toRat, Nat.add_sub_cancel_left, Nat.pow_eq, pow_add]
    push_cast
    field_simp
  simp only [sub]
  rw [toRat, Int.cast_sub, sub_div, hat a _ (Nat.le_max_left ..), hat b _ (Nat.le_max_right ..)]

-- The quotient is large enough.
theorem toRat_le_divUp_mul (d : Decimal) {count : Nat} (hcount : 0 < count) :
    d.toRat ≤ (d.divUp count).toRat * count := by
  have hdigits : d.digits ≤
      (d.digits.tdiv count + if d.digits.tmod count = 0 then 0 else 1) * count := by
    have hsum := Int.mul_tdiv_add_tmod d.digits count
    have hlt := Int.tmod_lt_of_pos d.digits (by exact_mod_cast hcount : (0 : Int) < count)
    split <;> nlinarith
  have hcast : (d.digits : ℚ) ≤
      ((d.digits.tdiv count + if d.digits.tmod count = 0 then 0 else 1 : Int) : ℚ) * count := by
    exact_mod_cast hdigits
  simp only [toRat, divUp]
  rw [div_mul_eq_mul_div]
  gcongr

theorem toRat_nonneg_iff {d : Decimal} : 0 ≤ d.toRat ↔ 0 ≤ d.digits := by
  rw [toRat, le_div_iff₀ (by positivity), zero_mul]
  exact Int.cast_nonneg_iff

theorem toRat_pos_iff {d : Decimal} : 0 < d.toRat ↔ 0 < d.digits := by
  rw [toRat, lt_div_iff₀ (by positivity), zero_mul]
  exact Int.cast_pos

-- Of a dividend that is not negative, the quotient is the least number of units that is large
-- enough.
theorem divUp_digits_le_iff {d : Decimal} (h : 0 ≤ d.digits) {count : Nat} (hcount : 0 < count)
    {k : Int} : (d.divUp count).digits ≤ k ↔ d.digits ≤ k * count := by
  have hpos : (0 : Int) < count := by exact_mod_cast hcount
  have hsum := Int.mul_ediv_add_emod d.digits count
  have hnonneg := Int.emod_nonneg d.digits hpos.ne'
  have hless := Int.emod_lt_of_pos d.digits hpos
  simp only [divUp, Int.tdiv_eq_ediv_of_nonneg h, Int.tmod_eq_emod_of_nonneg h]
  generalize d.digits / count = q at *
  generalize d.digits % count = r at *
  split
  · next hexact =>
    constructor <;> intro hle <;> nlinarith
  · next hrest =>
    constructor
    · intro hle
      nlinarith
    · intro hle
      by_contra hlt
      have hrest : 0 < r := by omega
      nlinarith

-- One unit less is not large enough.
theorem divUp_sub_unit_mul_lt {d : Decimal} (h : 0 ≤ d.toRat) {count : Nat} (hcount : 0 < count) :
    ((d.divUp count).toRat - (10 ^ d.scale)⁻¹) * count < d.toRat := by
  have hless : ((d.divUp count).digits - 1) * count < d.digits := by
    by_contra hle
    have hsmaller := (divUp_digits_le_iff (toRat_nonneg_iff.mp h) hcount).mpr (not_lt.mp hle)
    omega
  have hcast : (((d.divUp count).digits : ℚ) - 1) * count < d.digits := by exact_mod_cast hless
  have hscale : (d.divUp count).scale = d.scale := rfl
  rw [toRat, toRat, hscale, inv_eq_one_div, ← sub_div, div_mul_eq_mul_div]
  gcongr

theorem divUp_nonneg {d : Decimal} (h : 0 ≤ d.toRat) (count : Nat) :
    0 ≤ (d.divUp count).toRat := by
  have hdigits := toRat_nonneg_iff.mp h
  have hquotient : 0 ≤ d.digits.tdiv count := Int.tdiv_nonneg hdigits (by positivity)
  rw [toRat_nonneg_iff]
  simp only [divUp]
  split <;> omega

-- Rounding up adds less than one, and dividing adds nothing.
theorem divUp_lt_add_one {d : Decimal} (h : 0 ≤ d.toRat) {count : Nat} (hcount : 0 < count) :
    (d.divUp count).toRat < d.toRat + 1 := by
  have hless := divUp_sub_unit_mul_lt h hcount
  have hunit : ((10 : ℚ) ^ d.scale)⁻¹ ≤ 1 := inv_le_one_of_one_le₀ (one_le_pow₀ (by norm_num))
  have hone : (1 : ℚ) ≤ count := by exact_mod_cast hcount
  by_contra hle
  rw [not_lt] at hle
  nlinarith

-- More parts are not larger.
theorem divUp_antitone {d : Decimal} (h : 0 ≤ d.toRat) {few many : Nat} (hfew : 0 < few)
    (hle : few ≤ many) : (d.divUp many).toRat ≤ (d.divUp few).toRat := by
  have hdigits := toRat_nonneg_iff.mp h
  have hquotient := toRat_nonneg_iff.mp (divUp_nonneg h few)
  have hunits : (d.divUp many).digits ≤ (d.divUp few).digits := by
    rw [divUp_digits_le_iff hdigits (hfew.trans_le hle)]
    calc d.digits ≤ (d.divUp few).digits * few := (divUp_digits_le_iff hdigits hfew).mp le_rfl
      _ ≤ (d.divUp few).digits * many := by gcongr
  have hscale : (d.divUp many).scale = (d.divUp few).scale := rfl
  rw [toRat, toRat, hscale]
  gcongr

-- The decimal of a double is zero, or that of its mantissa and exponent with its sign.
inductive OfParts (x : Float) (r : ℚ) : Prop where
  | zero (s : Sign) (hx : parts x = .zero s) (hr : r = 0)
  | positive (m : Nat) (e : Int) (hm : 0 < m) (hx : parts x = .finite .positive m e hm)
      (hr : r = (shortest m e).toRat)
  | negative (m : Nat) (e : Int) (hm : 0 < m) (hx : parts x = .finite .negative m e hm)
      (hr : r = -(shortest m e).toRat)

theorem ofParts_of_ofFloat {x : Float} {d : Decimal} (h : ofFloat x = some d) :
    OfParts x d.toRat := by
  unfold ofFloat at h
  split at h
  · next s m e hm hx =>
    obtain rfl := Option.some.inj h
    cases s with
    | positive => exact .positive m e hm hx (by simp [toRat_ofScientific])
    | negative => exact .negative m e hm hx (by simp [toRat_ofScientific])
  · next s hx =>
    obtain rfl := Option.some.inj h
    exact .zero s hx (by simp [toRat])
  · cases h

theorem isLE_then_iff {m m' : Nat} {e e' : Int} :
    ((compare e e').then (compare m m')).isLE = true ↔ e < e' ∨ e = e' ∧ m ≤ m' := by
  rcases lt_trichotomy e e' with hlt | rfl | hgt
  · simp [compare_lt_iff_lt.mpr hlt, hlt]
  · simp [Nat.isLE_compare]
  · simp [compare_gt_iff_gt.mpr hgt, hgt.ne', hgt.not_gt]

-- Decimals of doubles are ordered as the doubles are.
theorem toRat_le_of_le {x y : Float} {a b : Decimal} (hle : x ≤ y) (ha : ofFloat x = some a)
    (hb : ofFloat y = some b) : a.toRat ≤ b.toRat := by
  rw [le_iff_compare] at hle
  have hnonneg := fun m e => (shortest m e).toRat_nonneg
  cases ofParts_of_ofFloat ha with
  | zero s hx ha =>
      cases ofParts_of_ofFloat hb with
      | zero s' hy hb => rw [ha, hb]
      | positive m' e' hm' hy hb => rw [ha, hb]; exact hnonneg m' e'
      | negative m' e' hm' hy hb =>
          rw [hx, hy] at hle
          exact absurd hle Bool.false_ne_true
  | positive m e hm hx ha =>
      cases ofParts_of_ofFloat hb with
      | zero s' hy hb =>
          rw [hx, hy] at hle
          exact absurd hle Bool.false_ne_true
      | positive m' e' hm' hy hb =>
          rw [hx, hy] at hle
          have horder : ((compare e e').then (compare m m')).isLE = true := hle
          rw [ha, hb]
          exact shortest_le (canonical_of_parts hx) (canonical_of_parts hy)
            (isLE_then_iff.mp horder)
      | negative m' e' hm' hy hb =>
          rw [hx, hy] at hle
          exact absurd hle Bool.false_ne_true
  | negative m e hm hx ha =>
      cases ofParts_of_ofFloat hb with
      | zero s' hy hb => rw [ha, hb]; exact neg_nonpos.mpr (hnonneg m e)
      | positive m' e' hm' hy hb =>
          rw [ha, hb]
          exact (neg_nonpos.mpr (hnonneg m e)).trans (hnonneg m' e')
      | negative m' e' hm' hy hb =>
          rw [hx, hy] at hle
          have horder : ((compare e e').then (compare m m')).swap.isLE = true := hle
          rw [← compare_then_swap] at horder
          rw [ha, hb]
          exact neg_le_neg (shortest_le (canonical_of_parts hy) (canonical_of_parts hx)
            (isLE_then_iff.mp horder))

end Decimal

end Datacube.Number

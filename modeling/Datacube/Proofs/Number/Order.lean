import Datacube.Number.Real
import Datacube.Proofs.Number.Packing

-- Doubles are ordered as what they are worth, and so are the doubles next to two numbers.
namespace Datacube.Number

open Float.Model (Format UnpackedFloat)
open Float.Model.UnpackedFloat

-- The parts of a double that is a number.
inductive Proper : UnpackedFloat → Prop where
  | infinity (s : Sign) : Proper (.infinity s)
  | zero (s : Sign) : Proper (.zero s)
  | finite (s : Sign) {m : Nat} {e : ℤ} (h : Canonical m e) : Proper (.finite s m e h.pos)

theorem proper_of_parts {x : Float} (h : parts x ≠ .notANumber) : Proper (parts x) := by
  cases hx : parts x with
  | notANumber => exact absurd hx h
  | infinity s => exact .infinity s
  | zero s => exact .zero s
  | finite s m e hm => exact .finite s (canonical_of_parts hx)

theorem ne_notANumber_of_isFinite {u : UnpackedFloat} (h : u.isFinite = true) :
    u ≠ .notANumber := by
  rintro rfl
  exact absurd h Bool.false_ne_true

section Compare

theorem Canonical.value_pos {m : Nat} {e : ℤ} (h : Canonical m e) : (0 : ℚ) < m * 2 ^ e :=
  mul_pos (Nat.cast_pos.mpr h.pos) (zpow_pos two_pos e)

-- A larger exponent makes up for any mantissa.
theorem Canonical.lt_of_exponent {m m' : Nat} {e e' : ℤ} (h : Canonical m e) (h' : Canonical m' e')
    (hlt : e < e') : (m : ℚ) * 2 ^ e < m' * 2 ^ e' := by
  have hmantissa : (m : ℚ) < 2 ^ 53 := by exact_mod_cast h.lt
  have hleading : (2 : ℚ) ^ 52 ≤ m' := by exact_mod_cast h'.normal (lt_of_le_of_lt h.least hlt)
  calc (m : ℚ) * 2 ^ e < 2 ^ 53 * 2 ^ e := by gcongr
    _ ≤ 2 ^ 52 * 2 ^ e' := grid_le_grid hlt
    _ ≤ m' * 2 ^ e' := by gcongr

theorem compare_magnitude {m m' : Nat} {e e' : ℤ} (h : Canonical m e) (h' : Canonical m' e') :
    (compare e e').then (compare m m') = compare ((m : ℚ) * 2 ^ e) (m' * 2 ^ e') := by
  rcases lt_trichotomy e e' with hlt | rfl | hgt
  · rw [compare_lt_iff_lt.mpr hlt, compare_lt_iff_lt.mpr (h.lt_of_exponent h' hlt)]
    rfl
  · have hunit : (0 : ℚ) < 2 ^ e := zpow_pos two_pos e
    rw [compare_eq_iff_eq.mpr rfl]
    rcases lt_trichotomy m m' with hlt | rfl | hgt
    · have hvalue := mul_lt_mul_of_pos_right (Nat.cast_lt (α := ℚ).mpr hlt) hunit
      rw [compare_lt_iff_lt.mpr hlt, compare_lt_iff_lt.mpr hvalue]
      rfl
    · rw [compare_eq_iff_eq.mpr rfl, compare_eq_iff_eq.mpr rfl]
      rfl
    · have hvalue := mul_lt_mul_of_pos_right (Nat.cast_lt (α := ℚ).mpr hgt) hunit
      rw [compare_gt_iff_gt.mpr hgt, compare_gt_iff_gt.mpr hvalue]
      rfl
  · rw [compare_gt_iff_gt.mpr hgt, compare_gt_iff_gt.mpr (h'.lt_of_exponent h hgt)]
    rfl

theorem compare_neg_neg (a b : ℚ) : compare (-a) (-b) = (compare a b).swap := by
  rcases lt_trichotomy a b with hlt | rfl | hgt
  · rw [compare_lt_iff_lt.mpr hlt, compare_gt_iff_gt.mpr (neg_lt_neg hlt)]
    rfl
  · rw [compare_eq_iff_eq.mpr rfl, compare_eq_iff_eq.mpr rfl]
    rfl
  · rw [compare_gt_iff_gt.mpr hgt, compare_lt_iff_lt.mpr (neg_lt_neg hgt)]
    rfl

theorem abs_value_lt (s : Sign) {m : Nat} {e : ℤ} (h : Canonical m e) :
    -limit < withSign s (m * 2 ^ e) ∧ withSign s (m * 2 ^ e) < limit := by
  have hpos := h.value_pos
  have hlt := h.lt_limit
  have hlimit := limit_pos
  cases s <;> constructor <;> simp only [withSign] <;> linarith

-- One case for each two kinds of doubles; the digits matter only for two finite ones of one sign.
theorem compare_eq {a b : UnpackedFloat} (ha : Proper a) (hb : Proper b) :
    a.compare b = some (compare (value a) (value b)) := by
  have hlimit := limit_pos
  have below {p q : ℚ} (h : p < q) : some Ordering.lt = some (compare p q) :=
    congrArg some (compare_lt_iff_lt.mpr h).symm
  have above {p q : ℚ} (h : q < p) : some Ordering.gt = some (compare p q) :=
    congrArg some (compare_gt_iff_gt.mpr h).symm
  have level (p : ℚ) : some Ordering.eq = some (compare p p) :=
    congrArg some (compare_eq_iff_eq.mpr rfl).symm
  cases ha with
  | infinity s =>
      cases hb with
      | infinity s' =>
          cases s with
          | positive =>
              cases s' with
              | positive => exact level limit
              | negative => exact above (neg_lt_self hlimit)
          | negative =>
              cases s' with
              | positive => exact below (neg_lt_self hlimit)
              | negative => exact level (-limit)
      | zero s' =>
          cases s with
          | positive => exact above hlimit
          | negative => exact below (neg_lt_zero.mpr hlimit)
      | finite s' h' =>
          cases s with
          | positive => exact above (abs_value_lt s' h').2
          | negative => exact below (abs_value_lt s' h').1
  | zero s =>
      cases hb with
      | infinity s' =>
          cases s' with
          | positive => exact below hlimit
          | negative => exact above (neg_lt_zero.mpr hlimit)
      | zero s' => exact level 0
      | finite s' h' =>
          cases s' with
          | positive => exact below h'.value_pos
          | negative => exact above (neg_lt_zero.mpr h'.value_pos)
  | finite s h =>
      cases hb with
      | infinity s' =>
          cases s' with
          | positive => cases s <;> exact below (abs_value_lt _ h).2
          | negative => cases s <;> exact above (abs_value_lt _ h).1
      | zero s' =>
          cases s with
          | positive => exact above h.value_pos
          | negative => exact below (neg_lt_zero.mpr h.value_pos)
      | finite s' h' =>
          cases s with
          | positive =>
              cases s' with
              | positive => exact congrArg some (compare_magnitude h h')
              | negative => exact above ((neg_lt_zero.mpr h'.value_pos).trans h.value_pos)
          | negative =>
              cases s' with
              | positive => exact below ((neg_lt_zero.mpr h.value_pos).trans h'.value_pos)
              | negative =>
                  refine congrArg some ?_
                  rw [compare_magnitude h h']
                  exact (compare_neg_neg _ _).symm

theorem le_iff_value {x y : Float} (hx : parts x ≠ .notANumber) (hy : parts y ≠ .notANumber) :
    x ≤ y ↔ value (parts x) ≤ value (parts y) := by
  rw [le_iff_compare, compare_eq (proper_of_parts hx) (proper_of_parts hy), Option.any_some,
    Ordering.isLE_iff_ne_gt]
  exact compare_le_iff_le

theorem lt_iff_value {x y : Float} (hx : parts x ≠ .notANumber) (hy : parts y ≠ .notANumber) :
    x < y ↔ value (parts x) < value (parts y) := by
  rw [lt_iff_compare, compare_eq (proper_of_parts hx) (proper_of_parts hy), Option.some_inj]
  exact compare_lt_iff_lt

theorem number_of_le {x y : Float} (h : x ≤ y) :
    parts x ≠ .notANumber ∧ parts y ≠ .notANumber := by
  rw [le_iff_compare] at h
  constructor
  · intro hx
    rw [hx] at h
    exact absurd h Bool.false_ne_true
  · intro hy
    rw [hy] at h
    cases hx : parts x <;> rw [hx] at h <;> exact absurd h Bool.false_ne_true

theorem float_le_trans {x y z : Float} (hxy : x ≤ y) (hyz : y ≤ z) : x ≤ z := by
  obtain ⟨hx, hy⟩ := number_of_le hxy
  obtain ⟨-, hz⟩ := number_of_le hyz
  exact (le_iff_value hx hz).mpr
    (((le_iff_value hx hy).mp hxy).trans ((le_iff_value hy hz).mp hyz))

-- Doubles that are worth the same: only the two zeros differ otherwise.
def Same (x y : Float) : Prop :=
  x ≤ y ∧ y ≤ x

theorem same_iff {x y : Float} : Same x y ↔
    parts x ≠ .notANumber ∧ parts y ≠ .notANumber ∧ value (parts x) = value (parts y) := by
  constructor
  · intro h
    obtain ⟨hx, hy⟩ := number_of_le h.1
    exact ⟨hx, hy, le_antisymm ((le_iff_value hx hy).mp h.1) ((le_iff_value hy hx).mp h.2)⟩
  · rintro ⟨hx, hy, hvalue⟩
    exact ⟨(le_iff_value hx hy).mpr hvalue.le, (le_iff_value hy hx).mpr hvalue.ge⟩

theorem same_self {x : Float} (h : parts x ≠ .notANumber) : Same x x :=
  same_iff.mpr ⟨h, h, rfl⟩

theorem Same.symm {x y : Float} (h : Same x y) : Same y x :=
  ⟨h.2, h.1⟩

theorem Same.trans {x y z : Float} (h : Same x y) (h' : Same y z) : Same x z :=
  ⟨float_le_trans h.1 h'.1, float_le_trans h'.2 h.2⟩

-- Two doubles are equal if they are worth the same.
theorem beq_iff_same {x y : Float} : (x == y) = true ↔ Same x y := by
  have hcompare : (x == y) = true ↔ (parts x).compare (parts y) = some .eq := by
    change ((parts x).compare (parts y) == some .eq) = true ↔ _
    exact beq_iff_eq
  rw [hcompare, same_iff]
  constructor
  · intro h
    have hx : parts x ≠ .notANumber := by
      intro hx
      rw [hx] at h
      cases h
    have hy : parts y ≠ .notANumber := by
      intro hy
      rw [hy] at h
      cases hx : parts x <;> rw [hx] at h <;> cases h
    rw [compare_eq (proper_of_parts hx) (proper_of_parts hy), Option.some_inj,
      compare_eq_iff_eq] at h
    exact ⟨hx, hy, h⟩
  · rintro ⟨hx, hy, hvalue⟩
    rw [compare_eq (proper_of_parts hx) (proper_of_parts hy), Option.some_inj, compare_eq_iff_eq,
      hvalue]

end Compare

section Extremes

variable {x y z : Float}

theorem isNaN_iff : x.isNaN = true ↔ parts x = .notANumber := by
  change (parts x).isNaN = true ↔ _
  cases parts x <;> simp [UnpackedFloat.isNaN]

theorem not_lt_of_notANumber (h : parts x = .notANumber ∨ parts y = .notANumber) : ¬x < y := by
  rw [lt_iff_compare]
  rcases h with h | h
  · rw [h]
    exact nofun
  · rw [h]
    cases parts x <;> exact nofun

theorem not_lt_iff_le (hx : parts x ≠ .notANumber) (hy : parts y ≠ .notANumber) :
    ¬y < x ↔ x ≤ y := by
  rw [lt_iff_value hy hx, le_iff_value hx hy, not_lt]

theorem greatestFloat_number (hy : parts y ≠ .notANumber) :
    parts (greatestFloat x y) ≠ .notANumber := by
  unfold greatestFloat
  split
  · exact hy
  · next h =>
    rw [Bool.or_eq_true, not_or, isNaN_iff] at h
    exact h.1

theorem leastFloat_number (hy : parts y ≠ .notANumber) :
    parts (leastFloat x y) ≠ .notANumber := by
  unfold leastFloat
  split
  · exact hy
  · next h =>
    rw [Bool.or_eq_true, not_or, isNaN_iff] at h
    exact h.1

-- The greater of two doubles is not above a third one exactly if neither of them is; one that is
-- not a number does not count.
theorem greatestFloat_le_iff (hy : parts y ≠ .notANumber) (hz : parts z ≠ .notANumber) :
    greatestFloat x y ≤ z ↔ ¬z < x ∧ y ≤ z := by
  by_cases hx : parts x = .notANumber
  · have hsecond : greatestFloat x y = y := by
      rw [greatestFloat, isNaN_iff.mpr hx, Bool.true_or, if_pos rfl]
    simp [hsecond, not_lt_of_notANumber (x := z) (.inr hx)]
  · rw [greatestFloat, Bool.eq_false_iff.mpr (mt isNaN_iff.mp hx), Bool.false_or,
      not_lt_iff_le hx hz, le_iff_value hx hz, le_iff_value hy hz]
    simp only [decide_eq_true_eq, ge_iff_le, le_iff_value hx hy]
    split
    · next hle =>
      rw [le_iff_value hy hz]
      exact ⟨fun h => ⟨hle.trans h, h⟩, And.right⟩
    · next hlt =>
      rw [le_iff_value hx hz]
      exact ⟨fun h => ⟨h, (not_le.mp hlt).le.trans h⟩, And.left⟩

theorem le_leastFloat_iff (hy : parts y ≠ .notANumber) (hz : parts z ≠ .notANumber) :
    z ≤ leastFloat x y ↔ ¬x < z ∧ z ≤ y := by
  by_cases hx : parts x = .notANumber
  · have hsecond : leastFloat x y = y := by
      rw [leastFloat, isNaN_iff.mpr hx, Bool.true_or, if_pos rfl]
    simp [hsecond, not_lt_of_notANumber (y := z) (.inl hx)]
  · rw [leastFloat, Bool.eq_false_iff.mpr (mt isNaN_iff.mp hx), Bool.false_or,
      not_lt_iff_le hz hx, le_iff_value hz hx, le_iff_value hz hy]
    simp only [decide_eq_true_eq, le_iff_value hy hx]
    split
    · next hle =>
      rw [le_iff_value hz hy]
      exact ⟨fun h => ⟨h.trans hle, h⟩, And.right⟩
    · next hlt =>
      rw [le_iff_value hz hx]
      exact ⟨fun h => ⟨h, h.trans (not_le.mp hlt).le⟩, And.left⟩

theorem le_greatestFloat (hy : parts y ≠ .notANumber) : y ≤ greatestFloat x y := by
  have hnumber := greatestFloat_number (x := x) hy
  exact ((greatestFloat_le_iff hy hnumber).mp ((le_iff_value hnumber hnumber).mpr le_rfl)).2

theorem leastFloat_le (hy : parts y ≠ .notANumber) : leastFloat x y ≤ y := by
  have hnumber := leastFloat_number (x := x) hy
  exact ((le_leastFloat_iff hy hnumber).mp ((le_iff_value hnumber hnumber).mpr le_rfl)).2

-- Two doubles in order, the lower one held from below and the upper one from above, stay in order
-- exactly if they are not both beyond one of the bounds.
theorem greatestFloat_le_leastFloat_iff {lo hi : Float} (hlo : parts lo ≠ .notANumber)
    (hhi : parts hi ≠ .notANumber) (hbounds : lo ≤ hi) (hxy : ¬y < x) :
    greatestFloat x lo ≤ leastFloat y hi ↔ ¬hi < x ∧ ¬y < lo := by
  have hnumber := leastFloat_number (x := y) hhi
  have hlower : lo ≤ leastFloat y hi ↔ ¬y < lo := by
    rw [le_leastFloat_iff hhi hlo, and_iff_left hbounds]
  have hupper : ¬leastFloat y hi < x ↔ ¬hi < x := by
    by_cases hx : parts x = .notANumber
    · simp [not_lt_of_notANumber (.inr hx)]
    · rw [not_lt_iff_le hx hnumber, not_lt_iff_le hx hhi, le_leastFloat_iff hhi hx,
        and_iff_right hxy]
  rw [greatestFloat_le_iff hlo hnumber, hupper, hlower]

end Extremes

section Nearest

-- What the double next to a number is worth. Numbers beyond the largest double go to an infinity.
def Rounds (q w : ℚ) : Prop :=
  ∃ s p v, 0 ≤ p ∧ q = withSign s p ∧ Rounded p v ∧ w = withSign s (min v limit)

theorem Rounded.nonneg {p v : ℚ} (h : Rounded p v) (hp : 0 ≤ p) : 0 ≤ v :=
  Rounded.zero.mono h hp

theorem Rounds.mono {q q' w w' : ℚ} (h : Rounds q w) (h' : Rounds q' w') (hle : q ≤ q') :
    w ≤ w' := by
  obtain ⟨s, p, v, hp, rfl, hv, rfl⟩ := h
  obtain ⟨s', p', v', hp', rfl, hv', rfl⟩ := h'
  have hnonneg := le_min (hv.nonneg hp) limit_pos.le
  have hnonneg' := le_min (hv'.nonneg hp') limit_pos.le
  cases s with
  | positive =>
      cases s' with
      | positive => exact min_le_min_right limit (hv.mono hv' hle)
      | negative =>
          -- Both numbers are zero.
          simp only [withSign] at hle ⊢
          have hzero := hv.mono Rounded.zero (by linarith)
          have hzero' := hv'.mono Rounded.zero (by linarith)
          linarith [min_le_left v limit, min_le_left v' limit]
  | negative =>
      cases s' with
      | positive =>
          simp only [withSign]
          linarith
      | negative => exact neg_le_neg (min_le_min_right limit (hv'.mono hv (neg_le_neg_iff.mp hle)))

theorem Rounds.unique {q w w' : ℚ} (h : Rounds q w) (h' : Rounds q w') : w = w' :=
  le_antisymm (h.mono h' le_rfl) (h'.mono h le_rfl)

theorem Rounds.neg {q w : ℚ} (h : Rounds q w) : Rounds (-q) (-w) := by
  obtain ⟨s, p, v, hp, rfl, hv, rfl⟩ := h
  cases s with
  | positive => exact ⟨.negative, p, v, hp, rfl, hv, rfl⟩
  | negative => exact ⟨.positive, p, v, hp, neg_neg p, hv, neg_neg _⟩

theorem Holds.rounds {s : Sign} {p v : ℚ} {u : UnpackedFloat} (hu : Holds s v u)
    (hv : Rounded p v) (hp : 0 ≤ p) : Rounds (withSign s p) (value (stored u)) :=
  ⟨s, p, v, hp, rfl, hv, hu.value_stored⟩

end Nearest

end Datacube.Number

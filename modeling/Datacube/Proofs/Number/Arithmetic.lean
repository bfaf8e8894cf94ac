import Datacube.Proofs.Number.Order

-- Sums and products of doubles: they are the doubles next to the exact results, so that larger
-- arguments give no smaller results.
namespace Datacube.Number

open Float.Model (Format UnpackedFloat totalExponent)
open Float.Model.UnpackedFloat

theorem parts_add (x y : Float) :
    parts (x + y) = stored (add Format.binary64 (parts x) (parts y)) := rfl

theorem parts_mul (x y : Float) :
    parts (x * y) = stored (mul Format.binary64 (parts x) (parts y)) := rfl

theorem parts_div (x y : Float) :
    parts (x / y) = stored (div Format.binary64 (parts x) (parts y)) := rfl

theorem parts_neg (x : Float) : parts (-x) = stored (parts x).neg := rfl

-- The double next to a number, which may be an infinity.
structure Near (q : ℚ) (u : UnpackedFloat) : Prop where
  number : u ≠ .notANumber
  rounds : Rounds q (value u)

theorem Near.value_le {q q' : ℚ} {u u' : UnpackedFloat} (h : Near q u) (h' : Near q' u')
    (hle : q ≤ q') : value u ≤ value u' :=
  h.rounds.mono h'.rounds hle

theorem Holds.near {s : Sign} {p v : ℚ} {u : UnpackedFloat} (hu : Holds s v u) (hv : Rounded p v)
    (hp : 0 ≤ p) : Near (withSign s p) (stored u) :=
  ⟨hu.signed.stored.ne_notANumber, hu.rounds hv hp⟩

theorem near_zero (s : Sign) : Near 0 (stored (.zero s)) := by
  have hnear := (Holds.zero (s := s) rfl).near Rounded.zero le_rfl
  cases s <;> simpa [withSign] using hnear

theorem near_finite (s : Sign) {m : Nat} {e : ℤ} (h : Canonical m e) :
    Near (value (.finite s m e h.pos)) (stored (.finite s m e h.pos)) :=
  (Holds.finite rfl h.lt h.least h.normal).near (.refl h.lt h.least h.normal) h.value_pos.le

-- A finite double is the double next to what it is worth.
theorem near_value {x : Float} (hx : (parts x).isFinite = true) :
    Near (value (parts x)) (parts x) := by
  cases hparts : parts x with
  | notANumber | infinity s => rw [hparts] at hx; exact absurd hx Bool.false_ne_true
  | zero s =>
      have hnear := near_zero s
      rwa [stored_zero] at hnear
  | finite s m e hm =>
      have hnear := near_finite s (canonical_of_parts hparts)
      rwa [stored_finite s (canonical_of_parts hparts)] at hnear

section Sum

theorem near_normalize (n : ℤ) (e : ℤ) (s : Sign) :
    Near (n * 2 ^ e) (stored (UnpackedFloat.normalize Format.binary64 n e s)) := by
  unfold UnpackedFloat.normalize
  split
  · next hlt =>
    have hneg : n < 0 := compare_lt_iff_lt.mp hlt
    obtain ⟨v, hv, hu⟩ := round_holds .negative (m := (-n).toNat) e (by omega)
    have hnear := hu.near hv (by positivity)
    have hvalue : withSign .negative (((-n).toNat : ℚ) * 2 ^ e) = n * 2 ^ e := by
      have hcast : (((-n).toNat : ℤ) : ℚ) = ((-n : ℤ) : ℚ) := by rw [Int.toNat_of_nonneg (by omega)]
      push_cast at hcast
      simp only [withSign, hcast]
      ring
    rwa [hvalue] at hnear
  · next heq =>
    obtain rfl : n = 0 := compare_eq_iff_eq.mp heq
    simpa using near_zero s
  · next hgt =>
    have hpos : 0 < n := compare_gt_iff_gt.mp hgt
    obtain ⟨v, hv, hu⟩ := round_holds .positive (m := n.toNat) e (by omega)
    have hnear := hu.near hv (by positivity)
    have hcast : ((n.toNat : ℤ) : ℚ) = n := by rw [Int.toNat_of_nonneg (by omega)]
    push_cast at hcast
    rwa [withSign, hcast] at hnear

-- Both mantissas are brought to the smaller exponent, where their sum is exact.
theorem apply_decreaseExponent (s : Sign) (m : Nat) {e target : ℤ} (hle : target ≤ e) :
    ((s.apply ((decreaseExponent m e target).1 : Nat) : ℤ) : ℚ) * 2 ^ target =
      withSign s (m * 2 ^ e) := by
  have hshift : ((decreaseExponent m e target).1 : ℚ) * 2 ^ target = m * 2 ^ e := by
    have he : e = target + ((e - target).toNat : ℤ) := by omega
    have hpow : (2 : ℚ) ^ e = 2 ^ (e - target).toNat * 2 ^ target := by
      conv_lhs => rw [he]
      exact two_zpow_add target _
    rw [hpow, decreaseExponent, Nat.shiftLeft_eq]
    push_cast
    ring
  cases s with
  | positive => simpa [Sign.apply, withSign] using hshift
  | negative => simp [Sign.apply, withSign, hshift]

theorem near_add {a b : UnpackedFloat} (ha : Proper a) (hb : Proper b)
    (hafin : a.isFinite = true) (hbfin : b.isFinite = true) :
    Near (value a + value b) (stored (add Format.binary64 a b)) := by
  cases ha with
  | infinity s => exact absurd hafin Bool.false_ne_true
  | zero s =>
      rw [show value (.zero s) = 0 from rfl, zero_add]
      cases hb with
      | infinity s' => exact absurd hbfin Bool.false_ne_true
      | zero s' => cases s <;> cases s' <;> exact near_zero _
      | finite s' h' => exact near_finite s' h'
  | @finite s m e h =>
      cases hb with
      | infinity s' => exact absurd hbfin Bool.false_ne_true
      | zero s' =>
          rw [show value (.zero s') = 0 from rfl, add_zero]
          exact near_finite s h
      | @finite s' m' e' h' =>
          have hnear := near_normalize (s.apply (decreaseExponent m e (min e e')).1 +
            s'.apply (decreaseExponent m' e' (min e e')).1) (min e e') .positive
          rw [Int.cast_add, add_mul, apply_decreaseExponent s m (min_le_left e e'),
            apply_decreaseExponent s' m' (min_le_right e e')] at hnear
          exact hnear

end Sum

section Product

-- The exponent of an exact product is not too large for the grid that the product is rounded on.
theorem Canonical.mul_exponent_le {m m' : Nat} {e e' : ℤ} (h : Canonical m e)
    (h' : Canonical m' e') :
    e + e' ≤ Format.binary64.targetExponent (totalExponent (m * m') (e + e')) := by
  have hleading : -1074 < e ∨ -1074 < e' → 2 ^ 52 ≤ m * m' := by
    rintro (hnormal | hnormal)
    · exact (h.normal hnormal).trans (Nat.le_mul_of_pos_right m h'.pos)
    · exact (h'.normal hnormal).trans (Nat.le_mul_of_pos_left m' h.pos)
  have hlog : -1074 < e ∨ -1074 < e' → 52 ≤ (m * m').log2 := fun hnormal =>
    (Nat.le_log2 (Nat.mul_pos h.pos h'.pos).ne').mpr (hleading hnormal)
  have hleast := h.least
  have hleast' := h'.least
  rw [targetExponent_eq, totalExponent]
  omega

theorem withSign_mul (s s' : Sign) (p p' : ℚ) :
    withSign (s * s') (p * p') = withSign s p * withSign s' p' := by
  cases s <;> cases s' <;> simp [withSign]

theorem withSign_withSign (s : Sign) (p : ℚ) : withSign s (withSign s p) = p := by
  cases s <;> simp [withSign]

theorem near_mul_finite (s s' : Sign) {m m' : Nat} {e e' : ℤ} (hm : 0 < m) (hm' : 0 < m')
    (he : e + e' ≤ Format.binary64.targetExponent (totalExponent (m * m') (e + e'))) :
    Near (value (.finite s m e hm) * value (.finite s' m' e' hm'))
      (stored (mul Format.binary64 (.finite s m e hm) (.finite s' m' e' hm'))) := by
  obtain ⟨v, hv, hu⟩ := roundWithAccuracy_exact (s * s') (Nat.mul_pos hm hm') he
  have hnear := hu.near hv (by positivity)
  have hvalue : ((m * m' : Nat) : ℚ) * 2 ^ (e + e') = m * 2 ^ e * (m' * 2 ^ e') := by
    rw [zpow_add₀ two_ne_zero]
    push_cast
    ring
  rw [hvalue, withSign_mul] at hnear
  exact hnear

theorem near_mul {a b : UnpackedFloat} (ha : Proper a) (hb : Proper b)
    (hafin : a.isFinite = true) (hbfin : b.isFinite = true) :
    Near (value a * value b) (stored (mul Format.binary64 a b)) := by
  cases ha with
  | infinity s => exact absurd hafin Bool.false_ne_true
  | zero s =>
      rw [show value (.zero s) = 0 from rfl, zero_mul]
      cases hb with
      | infinity s' => exact absurd hbfin Bool.false_ne_true
      | zero s' => exact near_zero _
      | finite s' h' => exact near_zero _
  | finite s h =>
      cases hb with
      | infinity s' => exact absurd hbfin Bool.false_ne_true
      | zero s' =>
          rw [show value (.zero s') = 0 from rfl, mul_zero]
          exact near_zero _
      | finite s' h' => exact near_mul_finite s s' h.pos h'.pos (h.mul_exponent_le h')

end Product

section Mono

theorem Proper.infinite_or_within {u : UnpackedFloat} (h : Proper u) :
    (∃ s, u = .infinity s) ∨ u.isFinite = true ∧ -limit < value u ∧ value u < limit := by
  cases h with
  | infinity s => exact .inl ⟨s, rfl⟩
  | zero s => exact .inr ⟨rfl, neg_lt_zero.mpr limit_pos, limit_pos⟩
  | finite s h => exact .inr ⟨rfl, abs_value_lt s h⟩

theorem Proper.isFinite_iff {u : UnpackedFloat} (h : Proper u) :
    u.isFinite = true ↔ -limit < value u ∧ value u < limit := by
  obtain ⟨s, rfl⟩ | ⟨hfinite, hwithin⟩ := h.infinite_or_within
  · refine iff_of_false Bool.false_ne_true fun hwithin => ?_
    cases s with
    | positive => exact lt_irrefl _ hwithin.2
    | negative => exact lt_irrefl _ hwithin.1
  · exact iff_of_true hfinite hwithin

theorem isFinite_of_between {x lo hi : Float} (hlo : lo.isFinite = true) (hhi : hi.isFinite = true)
    (hx : parts x ≠ .notANumber) (hlower : ¬x < lo) (hupper : ¬hi < x) : x.isFinite = true := by
  have hlonumber := ne_notANumber_of_isFinite hlo
  have hhinumber := ne_notANumber_of_isFinite hhi
  rw [lt_iff_value hx hlonumber, not_lt] at hlower
  rw [lt_iff_value hhinumber hx, not_lt] at hupper
  exact (proper_of_parts hx).isFinite_iff.mpr
    ⟨((proper_of_parts hlonumber).isFinite_iff.mp hlo).1.trans_le hlower,
      hupper.trans_lt ((proper_of_parts hhinumber).isFinite_iff.mp hhi).2⟩

theorem Proper.value_le_limit {u : UnpackedFloat} (h : Proper u) :
    -limit ≤ value u ∧ value u ≤ limit := by
  have hlimit := limit_pos
  obtain ⟨s, rfl⟩ | ⟨-, hlower, hupper⟩ := h.infinite_or_within
  · cases s <;> constructor <;> simp only [value, withSign] <;> linarith
  · exact ⟨hlower.le, hupper.le⟩

-- An operation that keeps the infinities, and gives the double next to the result of a function
-- elsewhere.
structure Follows (f : Float → Float) (g : ℚ → ℚ) : Prop where
  infinite : ∀ x s, parts x = .infinity s → parts (f x) = .infinity s
  finite : ∀ x, (parts x).isFinite = true → Near (g (value (parts x))) (parts (f x))

variable {f : Float → Float} {g : ℚ → ℚ} {x y : Float}

theorem Follows.number (h : Follows f g) (hx : parts x ≠ .notANumber) :
    parts (f x) ≠ .notANumber := by
  obtain ⟨s, hs⟩ | ⟨hfinite, -⟩ := (proper_of_parts hx).infinite_or_within
  · rw [h.infinite x s hs]
    exact UnpackedFloat.noConfusion
  · exact (h.finite x hfinite).number

theorem Follows.mono (h : Follows f g) (hg : Monotone g) (hx : parts x ≠ .notANumber)
    (hy : parts y ≠ .notANumber) (hle : value (parts x) ≤ value (parts y)) :
    value (parts (f x)) ≤ value (parts (f y)) := by
  have hwithin := (proper_of_parts (h.number hx)).value_le_limit
  have hwithin' := (proper_of_parts (h.number hy)).value_le_limit
  obtain ⟨s, hs⟩ | ⟨hfinite, hlower, -⟩ := (proper_of_parts hx).infinite_or_within
  · rw [h.infinite x s hs]
    cases s with
    | negative => exact hwithin'.1
    | positive =>
        -- Only the infinity itself is as large as the infinity.
        obtain ⟨s', hs'⟩ | ⟨-, -, hupper⟩ := (proper_of_parts hy).infinite_or_within
        · rw [hs, hs'] at hle
          rwa [h.infinite y s' hs']
        · rw [hs] at hle
          exact absurd hle hupper.not_ge
  · obtain ⟨s', hs'⟩ | ⟨hfinite', -⟩ := (proper_of_parts hy).infinite_or_within
    · rw [h.infinite y s' hs']
      cases s' with
      | positive => exact hwithin.2
      | negative =>
          rw [hs'] at hle
          exact absurd hle hlower.not_ge
    · exact (h.finite x hfinite).value_le (h.finite y hfinite') (hg hle)

theorem follows_add {c : Float} (hc : (parts c).isFinite = true) :
    Follows (c + ·) (value (parts c) + ·) where
  infinite x s hs := by
    rw [parts_add, hs]
    cases hc' : parts c with
    | notANumber | infinity s' => rw [hc'] at hc; exact absurd hc Bool.false_ne_true
    | zero s' => exact stored_infinity s
    | finite s' m e hm => exact stored_infinity s
  finite x hx := by
    rw [parts_add]
    exact near_add (proper_of_parts (ne_notANumber_of_isFinite hc))
      (proper_of_parts (ne_notANumber_of_isFinite hx)) hc hx

theorem add_mono {c : Float} (hc : (parts c).isFinite = true) (hx : parts x ≠ .notANumber)
    (hy : parts y ≠ .notANumber) (hle : value (parts x) ≤ value (parts y)) :
    value (parts (c + x)) ≤ value (parts (c + y)) :=
  (follows_add hc).mono (fun _ _ h => by linarith) hx hy hle

theorem follows_mul {r : Float} {m : Nat} {e : ℤ} {hm : 0 < m}
    (hr : parts r = .finite .positive m e hm) : Follows (· * r) (· * value (parts r)) where
  infinite x s hs := by
    rw [parts_mul, hs, hr]
    cases s <;> exact stored_infinity _
  finite x hx := by
    rw [parts_mul]
    have hfinite : (parts r).isFinite = true := by rw [hr]; rfl
    exact near_mul (proper_of_parts (ne_notANumber_of_isFinite hx))
      (proper_of_parts (ne_notANumber_of_isFinite hfinite)) hx hfinite

theorem mul_notANumber {r : Float} (h : parts x = .notANumber ∨ parts r = .notANumber) :
    parts (x * r) = .notANumber := by
  rw [parts_mul]
  rcases h with h | h
  · rw [h]
    exact stored_notANumber
  · rw [h]
    cases parts x <;> exact stored_notANumber

-- A product with the infinity is an infinity of the sign of the other factor.
theorem mul_infinity {r : Float} (hr : parts r = .infinity .positive)
    (hx : parts (x * r) ≠ .notANumber) :
    ∃ s, 0 < withSign s (value (parts x)) ∧ parts (x * r) = .infinity s := by
  rw [parts_mul, hr] at hx ⊢
  cases hparts : parts x with
  | notANumber | zero s => rw [hparts] at hx; exact absurd stored_notANumber hx
  | infinity s =>
      refine ⟨s, ?_, by cases s <;> exact stored_infinity _⟩
      rw [value, withSign_withSign]
      exact limit_pos
  | finite s m e hm =>
      refine ⟨s, ?_, by cases s <;> exact stored_infinity _⟩
      rw [value, withSign_withSign]
      exact (canonical_of_parts hparts).value_pos

theorem value_mul_zero {r : Float} {s : Sign} (hr : parts r = .zero s)
    (hx : parts (x * r) ≠ .notANumber) : value (parts (x * r)) = 0 := by
  rw [parts_mul, hr] at hx ⊢
  cases hparts : parts x with
  | notANumber | infinity s' => rw [hparts] at hx; exact absurd stored_notANumber hx
  | zero s' | finite s' m e hm => exact congrArg value (stored_zero (s' * s))

-- Products with a factor that is not negative keep the order as far as they are numbers.
theorem mul_mono {r : Float} (hr : 0 ≤ value (parts r)) (hle : value (parts x) ≤ value (parts y))
    (hx : parts (x * r) ≠ .notANumber) (hy : parts (y * r) ≠ .notANumber) :
    value (parts (x * r)) ≤ value (parts (y * r)) := by
  have hnumber : parts x ≠ .notANumber := fun h => hx (mul_notANumber (.inl h))
  have hnumber' : parts y ≠ .notANumber := fun h => hy (mul_notANumber (.inl h))
  cases hparts : parts r with
  | notANumber => exact absurd (mul_notANumber (.inr hparts)) hx
  | infinity s =>
      cases s with
      | negative =>
          rw [hparts] at hr
          exact absurd hr (neg_lt_zero.mpr limit_pos).not_ge
      | positive =>
          obtain ⟨s, hs, hvalue⟩ := mul_infinity hparts hx
          obtain ⟨s', hs', hvalue'⟩ := mul_infinity hparts hy
          have hlimit := limit_pos
          rw [hvalue, hvalue', value, value]
          cases s <;> cases s' <;> simp only [withSign] at hs hs' ⊢ <;> linarith
  | zero s => rw [value_mul_zero hparts hx, value_mul_zero hparts hy]
  | finite s m e hm =>
      cases s with
      | negative =>
          rw [hparts] at hr
          have hpos := (canonical_of_parts hparts).value_pos
          exact absurd hr (neg_lt_zero.mpr hpos).not_ge
      | positive =>
          refine (follows_mul hparts).mono ?_ hnumber hnumber' hle
          exact fun a b hab => mul_le_mul_of_nonneg_right hab hr

end Mono

section Negation

theorem Proper.stored_eq {u : UnpackedFloat} (h : Proper u) : stored u = u := by
  cases h with
  | infinity s => exact stored_infinity s
  | zero s => exact stored_zero s
  | finite s h => exact stored_finite s h

theorem Proper.neg {u : UnpackedFloat} (h : Proper u) : Proper u.neg := by
  cases h with
  | infinity s => exact .infinity (-s)
  | zero s => exact .zero (-s)
  | finite s h => exact .finite (-s) h

theorem value_neg (u : UnpackedFloat) : value u.neg = -value u := by
  have hsign (s : Sign) (v : ℚ) : withSign (-s) v = -withSign s v := by
    cases s <;> simp [withSign]
  cases u with
  | notANumber | zero s => exact neg_zero.symm
  | infinity s => exact hsign s limit
  | finite s m e hm => exact hsign s _

theorem Proper.ne_notANumber {u : UnpackedFloat} (h : Proper u) : u ≠ .notANumber := by
  cases h <;> exact UnpackedFloat.noConfusion

theorem parts_neg_eq {x : Float} (hx : parts x ≠ .notANumber) : parts (-x) = (parts x).neg := by
  rw [parts_neg, (proper_of_parts hx).neg.stored_eq]

theorem number_neg {x : Float} (hx : parts x ≠ .notANumber) : parts (-x) ≠ .notANumber := by
  rw [parts_neg_eq hx]
  exact (proper_of_parts hx).neg.ne_notANumber

theorem near_neg {q : ℚ} {x : Float} (h : Near q (parts x)) : Near (-q) (parts (-x)) := by
  refine ⟨number_neg h.number, ?_⟩
  rw [parts_neg_eq h.number, value_neg]
  exact h.rounds.neg

end Negation

end Datacube.Number

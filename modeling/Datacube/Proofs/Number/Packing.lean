import Datacube.Proofs.Number.Rounding

-- What is left of a rounded number when it is stored as a double: its value, or an infinity if it
-- is too large.
namespace Datacube.Number

open Float.Model (Format UnpackedFloat)
open Float.Model.UnpackedFloat

section Sign

-- A number with a sign in front.
def withSign (s : Sign) (v : ℚ) : ℚ :=
  match s with
  | .positive => v
  | .negative => -v

-- The first power of two that is out of reach.
def limit : ℚ := 2 ^ (1024 : ℤ)

theorem limit_pos : 0 < limit := by
  unfold limit
  positivity

-- What a double is worth. The infinities are put at the limit.
def value : UnpackedFloat → ℚ
  | .notANumber => 0
  | .infinity s => withSign s limit
  | .zero _ => 0
  | .finite s m e _ => withSign s (m * 2 ^ e)

-- A double with this sign.
inductive Signed (s : Sign) : UnpackedFloat → Prop where
  | infinity : Signed s (.infinity s)
  | zero : Signed s (.zero s)
  | finite (m : Nat) (e : ℤ) (hm : 0 < m) : Signed s (.finite s m e hm)

theorem Signed.ne_notANumber {s : Sign} {u : UnpackedFloat} (h : Signed s u) : u ≠ .notANumber := by
  cases h <;> exact UnpackedFloat.noConfusion

theorem Signed.value_nonneg {u : UnpackedFloat} (h : Signed .positive u) : 0 ≤ value u := by
  cases h with
  | infinity => exact limit_pos.le
  | zero => exact le_rfl
  | finite m e hm => exact mul_nonneg m.cast_nonneg (zpow_nonneg zero_le_two e)

theorem Holds.signed {s : Sign} {v : ℚ} {u : UnpackedFloat} (h : Holds s v u) : Signed s u := by
  cases h with
  | zero => exact .zero
  | finite => exact .finite _ _ _

theorem settled_signed (s : Sign) (shifted : ExtendedMantissa × ℤ) :
    Signed s (settled s shifted) := by
  unfold settled
  split
  · exact .zero
  · exact .finite _ _ _

theorem roundWithAccuracy_signed (s : Sign) (m : Nat) (e : ℤ) (acc : Accuracy) :
    Signed s (roundWithAccuracy Format.binary64 s m e acc) := by
  rw [roundWithAccuracy_eq]
  exact settled_signed s _

end Sign

section Bits

theorem unpackSign_packComponents (spec : Format) (s : Sign) (e : BitVec spec.exponentBits)
    (m : BitVec spec.mantissaBitsWithoutImplicit) :
    unpackSign (packComponents spec s e m) = s.toBitVec := by
  apply BitVec.eq_of_getLsbD_eq
  intro i hi
  obtain rfl : i = 0 := by omega
  simp [unpackSign, packComponents, BitVec.getLsbD_append, BitVec.getElem_append]

theorem ofBitVec_toBitVec (s : Sign) : Sign.ofBitVec s.toBitVec = s := by
  cases s <;> rfl

-- The three components as they are read back.
theorem unpack_packComponents (s : Sign) (e : BitVec 11) (m : BitVec 52) :
    unpack Format.binary64 (packComponents Format.binary64 s e m) =
      if e = -1#11 then if m = 0#52 then .infinity s else .notANumber
      else if e = 0#11 then
        if h : m = 0#52 then .zero s
        else .finite s m.toNat (e.toNat - 1075 + 1)
          (Nat.pos_of_ne_zero fun hzero => h (BitVec.eq_of_toNat_eq hzero))
      else .finite s (1#1 ++ m).toNat (e.toNat - 1075) (by rw [toNat_append_one]; omega) := by
  unfold unpack
  simp only [unpackMantissa_packComponents, unpackExponent_packComponents,
    unpackSign_packComponents, ofBitVec_toBitVec]
  rfl

theorem pack_finite (s : Sign) (m : Nat) (e : ℤ) (hm : 0 < m) :
    pack Format.binary64 (.finite s m e hm) =
      if 2 ^ 11 ≤ (e + 1023 + 52).toNat + 1 then packedInfinity Format.binary64 s
      else if m.log2 + 1 = 53 then
        packComponents Format.binary64 s (BitVec.ofNat 11 (e + 1023 + 52).toNat) (BitVec.ofNat 52 m)
      else packComponents Format.binary64 s (0#11) (BitVec.ofNat 52 m) := rfl

-- A number as it is read back after it was stored.
def stored (u : UnpackedFloat) : UnpackedFloat :=
  unpack Format.binary64 (pack Format.binary64 u)

theorem stored_notANumber : stored .notANumber = .notANumber := rfl

theorem stored_infinity (s : Sign) : stored (.infinity s) = .infinity s := by
  cases s <;> rfl

theorem stored_zero (s : Sign) : stored (.zero s) = .zero s := by
  cases s <;> rfl

theorem ofNat_ne_special {n : Nat} (h : n + 1 < 2 ^ 11) : BitVec.ofNat 11 n ≠ -1#11 := by
  intro heq
  have hn : n % 2 ^ 11 = 2047 := congrArg BitVec.toNat heq
  omega

-- The sign of a number is kept, whatever else is lost of it.
theorem Signed.stored {s : Sign} {u : UnpackedFloat} (h : Signed s u) :
    Signed s (Number.stored u) := by
  cases h with
  | infinity => rw [stored_infinity]; exact .infinity
  | zero => rw [stored_zero]; exact .zero
  | finite m e hm =>
      rw [Number.stored, pack_finite]
      split
      · change Signed s (Number.stored (.infinity s))
        rw [stored_infinity]
        exact .infinity
      next hrange =>
        -- Any exponent but that of the infinities.
        have hcomponents : ∀ (e : BitVec 11) (m : BitVec 52), e ≠ -1#11 →
            Signed s (unpack Format.binary64 (packComponents Format.binary64 s e m)) := by
          intro e m he
          rw [unpack_packComponents, if_neg he]
          split
          · split
            · exact .zero
            · exact .finite _ _ _
          · exact .finite _ _ _
        split
        · exact hcomponents _ _ (ofNat_ne_special (by omega))
        · exact hcomponents _ _ (by decide)

theorem stored_overflow (s : Sign) {m : Nat} {e : ℤ} (hm : 0 < m) (he : 971 < e) :
    stored (.finite s m e hm) = .infinity s := by
  rw [stored, pack_finite, if_pos (by omega)]
  exact stored_infinity s

-- Mantissas and exponents that doubles have are read back as they are.
theorem stored_finite (s : Sign) {m : Nat} {e : ℤ} (h : Canonical m e) :
    stored (.finite s m e h.pos) = .finite s m e h.pos := by
  have hleast := h.least
  have hgreatest := h.greatest
  have hlt := h.lt
  rw [stored, pack_finite, if_neg (by omega)]
  by_cases hleading : 2 ^ 52 ≤ m
  · have hlog : m.log2 + 1 = 53 := by
      have hlower := (Nat.le_log2 h.pos.ne').mpr hleading
      have hupper := (Nat.log2_lt h.pos.ne').mpr hlt
      omega
    have hexponent : (BitVec.ofNat 11 (e + 1023 + 52).toNat).toNat = (e + 1075).toNat := by
      rw [BitVec.toNat_ofNat]
      omega
    have hmantissa : (1#1 ++ BitVec.ofNat 52 m).toNat = m := by
      rw [toNat_append_one, BitVec.toNat_ofNat]
      omega
    rw [if_pos hlog, unpack_packComponents, if_neg (ofNat_ne_special (by omega)), if_neg]
    · simp only [hexponent, hmantissa]
      congr 1
      omega
    · intro hzero
      rw [hzero] at hexponent
      change 0 = _ at hexponent
      omega
  · have hlog : m.log2 + 1 ≠ 53 := by
      have hupper := (Nat.log2_lt h.pos.ne').mpr (not_le.mp hleading)
      omega
    have hmantissa : (BitVec.ofNat 52 m).toNat = m := by
      rw [BitVec.toNat_ofNat]
      omega
    obtain rfl : e = -1074 := by
      have hnormal := h.normal
      omega
    rw [if_neg hlog, unpack_packComponents, if_neg (by decide), if_pos rfl, dif_neg]
    · simp only [hmantissa]
      rfl
    · intro hzero
      rw [hzero] at hmantissa
      exact h.pos.ne hmantissa

theorem Canonical.lt_limit {m : Nat} {e : ℤ} (h : Canonical m e) : (m : ℚ) * 2 ^ e < limit := by
  have hmantissa : (m : ℚ) < 2 ^ 53 := by exact_mod_cast h.lt
  calc (m : ℚ) * 2 ^ e < 2 ^ 53 * 2 ^ e := by gcongr
    _ ≤ 2 ^ 53 * 2 ^ (971 : ℤ) := mul_le_mul_of_nonneg_left (two_zpow_le h.greatest) (by positivity)
    _ = limit := (two_zpow_add 971 53).symm

-- A rounded number is stored without loss, or as an infinity if it is out of reach.
theorem Holds.value_stored {s : Sign} {v : ℚ} {u : UnpackedFloat} (h : Holds s v u) :
    value (stored u) = withSign s (min v limit) := by
  cases h with
  | zero hv =>
      rw [stored_zero, hv, min_eq_left limit_pos.le]
      cases s <;> simp [value, withSign]
  | @finite m e hm hv hlt hleast hnormal =>
      rcases le_or_gt e 971 with hle | hgt
      · have hcanonical : Canonical m e := ⟨hm, hlt, hleast, hle, hnormal⟩
        rw [stored_finite s hcanonical, min_eq_left (hv ▸ hcanonical.lt_limit.le), hv]
        rfl
      · have hleading : (2 : ℚ) ^ 52 ≤ m := by exact_mod_cast hnormal (by omega)
        have habove : limit ≤ v := by
          calc limit = 2 ^ 52 * 2 ^ (972 : ℤ) := two_zpow_add 972 52
            _ ≤ m * 2 ^ e := mul_le_mul hleading (two_zpow_le hgt) (by positivity) (by positivity)
            _ = v := hv.symm
        rw [stored_overflow s hm hgt, min_eq_right habove]
        rfl

end Bits

section Words

-- A word is made of its three components.
theorem eq_packComponents (b : BitVec Format.binary64.numBits) :
    b = packComponents Format.binary64 (Sign.ofBitVec (unpackSign b)) (unpackExponent b)
      (unpackMantissa b) := by
  have hsign (s : BitVec 1) : (Sign.ofBitVec s).toBitVec = s := by
    revert s
    decide
  apply BitVec.eq_of_getLsbD_eq
  intro i hi
  have hi : i < 64 := hi
  rw [packComponents, hsign]
  simp only [BitVec.getLsbD_append, unpackMantissa, unpackExponent, unpackSign,
    BitVec.getLsbD_cast, BitVec.getLsbD_extractLsb]
  by_cases hmantissa : i < 52
  · simp [hmantissa]
  · by_cases hexponent : i - 52 < 11
    · have hplace : 52 + (i - 52) = i := by omega
      simp [hmantissa, hexponent, hplace]
    · obtain rfl : i = 63 := by omega
      simp

-- Except for not a number, no two words have the same parts. With a leading bit the mantissa is
-- longer than without.
theorem components_inj {s s' : Sign} {e e' : BitVec 11} {m m' : BitVec 52}
    (hnumber : unpack Format.binary64 (packComponents Format.binary64 s e m) ≠ .notANumber)
    (h : unpack Format.binary64 (packComponents Format.binary64 s e m) =
      unpack Format.binary64 (packComponents Format.binary64 s' e' m')) :
    s = s' ∧ e = e' ∧ m = m' := by
  rw [unpack_packComponents] at h hnumber
  rw [unpack_packComponents] at h
  have hm := m.isLt
  have hm' := m'.isLt
  by_cases hspecial : e = -1#11
  · rw [if_pos hspecial] at h hnumber
    by_cases hzero : m = 0#52
    · rw [if_pos hzero] at h
      split_ifs at h with hspecial' hzero'
      · cases h
        exact ⟨rfl, hspecial.trans hspecial'.symm, hzero.trans hzero'.symm⟩
    · exact absurd (if_neg hzero) hnumber
  · rw [if_neg hspecial] at h
    by_cases hleast : e = 0#11
    · rw [if_pos hleast] at h
      by_cases hzero : m = 0#52
      · rw [dif_pos hzero] at h
        split_ifs at h with hspecial' hzero' hleast' hzero'
        · cases h
          exact ⟨rfl, hleast.trans hleast'.symm, hzero.trans hzero'.symm⟩
      · rw [dif_neg hzero] at h
        split_ifs at h with hspecial' hzero' hleast' hzero'
        · obtain ⟨rfl, hmantissa, -⟩ := finite.inj h
          exact ⟨rfl, hleast.trans hleast'.symm, BitVec.eq_of_toNat_eq hmantissa⟩
        · obtain ⟨-, hmantissa, -⟩ := finite.inj h
          rw [toNat_append_one] at hmantissa
          omega
    · rw [if_neg hleast] at h
      split_ifs at h with hspecial' hzero' hleast' hzero'
      · obtain ⟨-, hmantissa, -⟩ := finite.inj h
        rw [toNat_append_one] at hmantissa
        omega
      · obtain ⟨rfl, hmantissa, hexponent⟩ := finite.inj h
        rw [toNat_append_one, toNat_append_one] at hmantissa
        exact ⟨rfl, BitVec.eq_of_toNat_eq (by omega), BitVec.eq_of_toNat_eq (by omega)⟩

theorem eq_of_parts {x y : Float} (hx : parts x ≠ .notANumber) (h : parts x = parts y) : x = y := by
  have hbits : x.toBits.toBitVec = y.toBits.toBitVec := by
    have hx' := eq_packComponents x.toBits.toBitVec
    have hy' := eq_packComponents y.toBits.toBitVec
    unfold parts at h hx
    rw [hx'] at h hx
    rw [hy'] at h
    obtain ⟨hs, he, hm⟩ := components_inj hx h
    rw [hx', hy', hs, he, hm]
  obtain ⟨⟨bits, valid⟩⟩ := x
  obtain ⟨⟨bits', valid'⟩⟩ := y
  obtain rfl : bits = bits' := UInt64.toBitVec_inj.mp hbits
  rfl

end Words

end Datacube.Number

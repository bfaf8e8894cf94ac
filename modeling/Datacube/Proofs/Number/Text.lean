import Datacube.Number.Decimal
import Datacube.Proofs.Text.Characters

-- The characters that numbers are written with.
namespace Datacube.Number

open Text (All IsWord)

-- Digits, the signs of a numeral, and the letters of the words for the infinities and not a number.
def IsNumeral (c : Char) : Prop :=
  c.isDigit = true ∨ c ∈ ['-', '.', 'E', 'i', 'n', 'f', 'N', 'a']

instance : DecidablePred IsNumeral := fun c =>
  inferInstanceAs (Decidable (c.isDigit = true ∨ c ∈ ['-', '.', 'E', 'i', 'n', 'f', 'N', 'a']))

theorem IsNumeral.ne {c d : Char} (h : IsNumeral c) (hd : ¬IsNumeral d) : c ≠ d := by
  rintro rfl
  exact hd h

theorem isNumeral_toDigits {n : Nat} : ∀ c ∈ Nat.toDigits 10 n, IsNumeral c :=
  fun _ hc => .inl (Nat.isDigit_of_mem_toDigits (by decide) (by decide) hc)

theorem all_natText (n : Nat) : All IsNumeral (natText n) := by
  rw [natText, Text.all_ofList]
  exact isNumeral_toDigits

theorem all_intText (n : Int) : All IsNumeral (intText n) := by
  cases n with
  | ofNat n => exact all_natText n
  | negSucc n =>
      rw [intText, Text.all_append]
      exact ⟨by decide, all_natText (n + 1)⟩

theorem isNumeral_placePoint {digits : List Char} {scale : Nat} (h : ∀ c ∈ digits, IsNumeral c) :
    ∀ c ∈ Decimal.placePoint digits scale, IsNumeral c := by
  unfold Decimal.placePoint
  split
  · exact h
  · intro c hc
    -- Behind the padding there are digits, and the point goes between them.
    simp only [List.mem_append, List.mem_singleton] at hc
    have hpadded : ∀ d ∈ List.replicate (scale + 1 - digits.length) '0' ++ digits, IsNumeral d := by
      intro d hd
      rcases List.mem_append.mp hd with hd | hd
      · rw [List.eq_of_mem_replicate hd]
        decide
      · exact h d hd
    rcases hc with (hc | rfl) | hc
    · exact hpadded c (List.mem_of_mem_take hc)
    · decide
    · exact hpadded c (List.mem_of_mem_drop hc)

theorem isNumeral_exponentForm {digits : List Char} {scale : Nat} (h : ∀ c ∈ digits, IsNumeral c) :
    ∀ c ∈ Decimal.exponentForm digits scale, IsNumeral c := by
  intro c hc
  simp only [Decimal.exponentForm, List.mem_append] at hc
  rcases hc with ((hc | hc) | hc) | hc
  · exact h c (List.mem_of_mem_take hc)
  · split at hc
    · cases hc
    · rcases List.mem_cons.mp hc with rfl | hc
      · decide
      · exact h c (List.mem_of_mem_drop hc)
  · revert c
    decide
  · exact isNumeral_toDigits c hc

theorem isNumeral_signed {negative : Bool} {cs : List Char} (h : ∀ c ∈ cs, IsNumeral c) :
    ∀ c ∈ (if negative then '-' :: cs else cs), IsNumeral c := by
  cases negative with
  | false => exact h
  | true => exact List.forall_mem_cons.mpr ⟨by decide, h⟩

theorem Decimal.all_text (d : Decimal) : All IsNumeral d.text := by
  unfold text
  split
  · decide
  · rw [Text.all_ofList]
    have hbody : ∀ c ∈ (if maxLeadingZeros + (Nat.toDigits 10 d.digits.natAbs).length < d.scale
        then exponentForm (Nat.toDigits 10 d.digits.natAbs) d.scale
        else placePoint (Nat.toDigits 10 d.digits.natAbs) d.scale), IsNumeral c := by
      split
      · exact isNumeral_exponentForm isNumeral_toDigits
      · exact isNumeral_placePoint isNumeral_toDigits
    split
    · exact List.forall_mem_cons.mpr ⟨by decide, hbody⟩
    · exact hbody

theorem all_floatText (x : Float) : All IsNumeral (floatText x) := by
  unfold floatText
  cases parts x with
  | notANumber => decide
  | infinity s => cases s <;> decide
  | zero s => cases s <;> decide
  | finite s m e h =>
      rw [Text.all_ofList]
      exact isNumeral_signed (isNumeral_placePoint isNumeral_toDigits)

theorem isBlank_of_isNumeral {c : Char} (h : IsNumeral c) : Text.isBlank c = false := by
  rcases h with h | h
  · have hrange : 48 ≤ c.toNat ∧ c.toNat ≤ 57 := by
      simpa [Char.isDigit, UInt32.le_iff_toNat_le] using h
    simp only [Text.isBlank, Bool.or_eq_false_iff, Bool.and_eq_false_iff, decide_eq_false_iff_not,
      beq_eq_false_iff_ne]
    omega
  · revert c
    decide

theorem isWord_intText (n : Int) : IsWord (intText n).toList := by
  refine ⟨?_, fun c hc => ?_⟩
  · cases n with
    | ofNat n => simp [intText, natText, Nat.toDigits_ne_nil]
    | negSucc n => simp [intText]
  · exact isBlank_of_isNumeral (all_intText n c hc)

theorem placePoint_ne_nil {digits : List Char} (h : digits ≠ []) (scale : Nat) :
    Decimal.placePoint digits scale ≠ [] := by
  unfold Decimal.placePoint
  split
  · exact h
  · simp

theorem isWord_floatText (x : Float) : IsWord (floatText x).toList := by
  refine ⟨?_, fun c hc => isBlank_of_isNumeral (all_floatText x c hc)⟩
  unfold floatText
  cases parts x with
  | notANumber => decide
  | infinity s => cases s <;> decide
  | zero s => cases s <;> decide
  | finite s m e h =>
      rw [String.toList_ofList]
      split
      · exact List.cons_ne_nil _ _
      · exact placePoint_ne_nil Nat.toDigits_ne_nil _

end Datacube.Number

import Datacube.Number.Real
import Datacube.Proofs.Number.Numeral

-- The texts that are read as not a number: a word, but no numeral.
namespace Datacube.Number

-- The word for not a number, in any case and with a possible sign.
def SaysNotANumber (s : String) : Prop :=
  Text.lowerAscii (String.ofList (takeSign s.toList).2) = "nan"

instance : DecidablePred SaysNotANumber := fun s =>
  inferInstanceAs (Decidable (Text.lowerAscii (String.ofList (takeSign s.toList).2) = "nan"))

theorem infinity_number : parts infinity ≠ .notANumber := by
  rw [Ne, ← isNaN_iff]
  decide +kernel

theorem parts_notANumber : parts notANumber = .notANumber := by
  rw [← isNaN_iff]
  decide +kernel

theorem Numeral.toFloat_number (n : Numeral) : parts n.toFloat ≠ .notANumber :=
  (near_ofScientific _ _ _).number

theorem parseFloat_notANumber_iff {s : String} {x : Float} (h : parseFloat s = some x) :
    parts x = .notANumber ↔ SaysNotANumber s := by
  have signed (negative : Bool) {y : Float} (hy : parts y ≠ .notANumber) :
      parts (if negative then -y else y) ≠ .notANumber := by
    cases negative with
    | false => exact hy
    | true => exact number_neg hy
  unfold SaysNotANumber
  simp only [parseFloat] at h
  split at h
  · next hinf =>
    obtain rfl := Option.some.inj h
    refine iff_of_false (signed _ infinity_number) fun hnan => ?_
    rw [hnan] at hinf
    exact absurd hinf (by decide)
  · split at h
    · next hnan =>
      obtain rfl := Option.some.inj h
      exact iff_of_true parts_notANumber hnan
    · next hnan =>
      obtain ⟨n, -, rfl⟩ := Option.map_eq_some_iff.mp h
      exact iff_of_false (signed _ n.toFloat_number) hnan

end Datacube.Number

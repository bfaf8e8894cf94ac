import Datacube.Proofs.Number.RoundTrip

-- The decimal that a text writes. The shortest text of a double writes the decimal that exact
-- arithmetic on the double starts from.
namespace Datacube.Number

namespace Decimal

-- The number that the digits write, with as many places as there are digits behind the point.
-- A numeral with a power of ten has no places of its own.
def written? (text : String) : Option Decimal :=
  let (negative, body) := takeSign text.toList
  match parseNumeral body with
  | some ⟨whole, fraction, 0⟩ =>
    some ⟨signed negative (ofDigits (whole ++ fraction)), fraction.length⟩
  | _ => none

example : written? "-0.250" = some ⟨-250, 3⟩ := by decide +kernel

end Decimal

section Text

variable {text whole fraction : List Char} {digits scale : Nat}

theorem Positional.written? (h : Positional text digits scale whole fraction) (negative : Bool) :
    Decimal.written? (String.ofList (if negative then '-' :: text else text)) =
      some ⟨signed negative digits, scale⟩ := by
  simp only [Decimal.written?, String.toList_ofList, h.takeSign, h.parseNumeral, h.digits_eq,
    h.fraction_length]

theorem written?_floatText {x : Float} {d : Decimal} (hd : Decimal.ofFloat x = some d) :
    Decimal.written? (floatText x) = some d := by
  unfold Decimal.ofFloat at hd
  unfold floatText
  split at hd
  · next s m e hm hparts =>
    obtain rfl := Option.some.inj hd
    rw [hparts]
    obtain ⟨whole, fraction, hpositional⟩ := positional_placePoint
      (Decimal.ofScientific false (shortest m e)).digits.natAbs
      (Decimal.ofScientific false (shortest m e)).scale
    cases s with
    | positive => exact hpositional.written? false
    | negative => exact hpositional.written? true
  · next s hparts =>
    obtain rfl := Option.some.inj hd
    rw [hparts]
    cases s <;> decide +kernel
  · cases hd

end Text

-- Every finite double has a decimal.
theorem Decimal.exists_ofFloat {x : Float} (hx : x.isFinite = true) : ∃ d, ofFloat x = some d := by
  have hfinite : (parts x).isFinite = true := hx
  unfold ofFloat
  cases hparts : parts x with
  | notANumber | infinity s =>
      rw [hparts] at hfinite
      exact absurd hfinite Bool.false_ne_true
  | zero s => exact ⟨_, rfl⟩
  | finite s m e hm => exact ⟨_, rfl⟩

end Datacube.Number

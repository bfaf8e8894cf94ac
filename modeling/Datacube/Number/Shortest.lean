import Datacube.Number.Integer

namespace Datacube.Number

open Float.Model (UnpackedFloat Format)

-- A double taken apart: not a number, an infinity, a zero, or sign, mantissa and binary exponent.
def parts (x : Float) : UnpackedFloat :=
  UnpackedFloat.unpack Format.binary64 x.toBits.toBitVec

-- A multiple `digits * 10 ^ exponent` of a power of ten.
structure Scientific where
  digits : Nat
  exponent : Int
deriving DecidableEq, Repr

-- The interval of reals that round to the double `mantissa * 2 ^ exponent`, in quarters of a unit
-- in the last place. The gap below a power of two is half as wide, except at the least exponent.
-- An even mantissa also gets the ends of its interval.
structure Interval where
  lower : Nat
  value : Nat
  upper : Nat
  exponent : Int
  closed : Bool

def roundingInterval (mantissa : Nat) (exponent : Int) : Interval where
  lower := 4 * mantissa - (if mantissa = twoTo 52 ∧ -1074 < exponent then 1 else 2)
  value := 4 * mantissa
  upper := 4 * mantissa + 2
  exponent := exponent - 2
  closed := mantissa % 2 = 0

-- The factors `(p, q)` for which `n * 10 ^ t` compares with `c * 2 ^ e` as `n * p` with `c * q`.
def gridFactors (t e : Int) : Nat × Nat :=
  (tenTo t.toNat * twoTo (-e).toNat, twoTo e.toNat * tenTo (-t).toNat)

-- The multiple of `10 ^ t` inside the interval that is next to its value, if there is one: of two
-- the nearer, of two equally near the larger.
def Interval.gridPoint (i : Interval) (t : Int) : Option Nat :=
  let (p, q) := gridFactors t i.exponent
  let inside := fun (n : Nat) =>
    if i.closed then i.lower * q ≤ n * p && n * p ≤ i.upper * q
    else i.lower * q < n * p && n * p < i.upper * q
  let below := i.value * q / p
  let above := below + 1
  match inside below, inside above with
  | true, true => some (if i.value * q - below * p < above * p - i.value * q then below else above)
  | true, false => some below
  | false, true => some above
  | false, false => none

-- The coarsest of the next `count` decimal grids, from `10 ^ t` downwards, with a point inside.
def Interval.firstGrid (i : Interval) : Nat → Int → Scientific
  | 0, t =>
    let (p, q) := gridFactors t i.exponent
    ⟨i.value * q / p, t⟩
  | count + 1, t =>
    match i.gridPoint t with
    | some n => ⟨n, t⟩
    | none => i.firstGrid count (t - 1)

-- The decimal with the fewest digits that reads back as the double `mantissa * 2 ^ exponent`, and
-- of those the nearest. The search starts above the leading digit, whose place is found from the
-- leading bit, and 17 digits always suffice.
def shortest (mantissa : Nat) (exponent : Int) : Scientific :=
  let lead := ((mantissa.log2 : Int) + exponent) * 30103 / 100000 + 1
  (roundingInterval mantissa exponent).firstGrid 20 lead

end Datacube.Number

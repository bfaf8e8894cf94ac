import Datacube.Number.Integer
import Datacube.Number.Shortest

namespace Datacube.Number

open Float.Model.UnpackedFloat (Sign)

-- The exact decimal `digits / 10 ^ scale`. The scale is kept: `0.50` and `0.5` differ as texts.
structure Decimal where
  digits : Int
  scale : Nat
deriving DecidableEq, Repr

namespace Decimal

def one : Decimal := ⟨1, 0⟩

def ofScientific (negative : Bool) (s : Scientific) : Decimal :=
  ⟨signed negative (s.digits * tenTo s.exponent.toNat), (-s.exponent).toNat⟩

-- The decimal that a double's shortest text denotes; none for the infinities and not a number.
def ofFloat (x : Float) : Option Decimal :=
  match parts x with
  | .finite s m e _ => some (ofScientific (s matches .negative) (shortest m e))
  | .zero _ => some ⟨0, 0⟩
  | _ => none

-- The digits of the same number at a scale that is not smaller.
def digitsAt (d : Decimal) (scale : Nat) : Int :=
  d.digits * tenTo (scale - d.scale)

-- The difference, at the larger of the two scales.
def sub (a b : Decimal) : Decimal :=
  let scale := max a.scale b.scale
  ⟨a.digitsAt scale - b.digitsAt scale, scale⟩

-- The quotient by a count, at the scale of the dividend: truncated, and one unit more if something
-- was cut off, so that for a dividend that is not negative it is rounded up.
def divUp (d : Decimal) (count : Nat) : Decimal :=
  ⟨d.digits.tdiv count + (if d.digits.tmod count = 0 then 0 else 1), d.scale⟩

-- `acc * x ^ n` by squaring from the lowest bit of `n` up, with every product rounded to a double.
def floatPower (acc x : Float) (n : Nat) : Float :=
  let acc := if n % 2 = 1 then acc * x else acc
  if n < 2 then acc else floatPower acc (x * x) (n / 2)
termination_by n

-- The number of digits of `n`, or one less, from its number of bits alone.
def digitEstimate (n : Nat) : Nat :=
  (Nat.toDigits 10 (twoTo (n.log2 + 2))).length - 1

-- How many digits are cut off at a time, and how many are left in any case.
def cutWidth : Nat := 19

def keptDigits : Nat := 25

-- The first digits of a number and how many were cut off behind them.
def leadingDigits (n : Nat) : Nat × Nat :=
  let cut := (digitEstimate n - keptDigits) / cutWidth * cutWidth
  (n / tenTo cut, cut)

-- A double close to the decimal, from its leading digits. A power of ten that is left to multiply
-- with is made of doubles; one that is left to divide by makes a numeral, which is read exactly.
def toFloat (d : Decimal) : Float :=
  let (digits, cut) := if d.scale = 0 then (d.digits.natAbs, 0) else leadingDigits d.digits.natAbs
  let magnitude :=
    if d.scale ≤ cut then Float.ofNat digits * floatPower 1.0 10.0 (cut - d.scale)
    else Float.ofScientific digits true (d.scale - cut)
  if d.digits < 0 then -magnitude else magnitude

private def zeros (n : Nat) : List Char :=
  List.replicate n '0'

-- Digits with the last `scale` of them behind a point; there is a digit before the point.
def placePoint (digits : List Char) (scale : Nat) : List Char :=
  if scale = 0 then digits
  else
    let padded := zeros (scale + 1 - digits.length) ++ digits
    padded.take (padded.length - scale) ++ ['.'] ++ padded.drop (padded.length - scale)

-- A single digit before the point and the power of ten behind an `E`.
def exponentForm (digits : List Char) (scale : Nat) : List Char :=
  let fraction := match digits.drop 1 with
    | [] => []
    | rest => '.' :: rest
  digits.take 1 ++ fraction ++ ['E', '-'] ++ Nat.toDigits 10 (scale + 1 - digits.length)

-- More than this many zeros between the point and the first digit call for the exponent form.
def maxLeadingZeros : Nat := 5

-- Zero is a bare `0`; other decimals keep all digits of their scale.
def text (d : Decimal) : String :=
  if d.digits = 0 then "0"
  else
    let digits := Nat.toDigits 10 d.digits.natAbs
    let body :=
      if maxLeadingZeros + digits.length < d.scale then exponentForm digits d.scale
      else placePoint digits d.scale
    String.ofList (if d.digits < 0 then '-' :: body else body)

end Decimal

-- The shortest text that reads back as the same double, always in positional form.
def floatText (x : Float) : String :=
  let withSign := fun (s : Sign) (text : List Char) =>
    String.ofList (if s matches .negative then '-' :: text else text)
  match parts x with
  | .notANumber => "NaN"
  | .infinity s => withSign s ['i', 'n', 'f']
  | .zero s => withSign s ['0']
  | .finite s m e _ =>
    let d := Decimal.ofScientific false (shortest m e)
    withSign s (Decimal.placePoint (Nat.toDigits 10 d.digits.natAbs) d.scale)

-- Texts of coordinates with a space between them.
def floatTexts (xs : List Float) : String :=
  " ".intercalate (xs.map floatText)

end Datacube.Number

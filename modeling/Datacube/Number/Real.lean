import Datacube.Number.Integer
import Datacube.Number.Shortest
import Datacube.Text.Case

namespace Datacube.Number

open Float.Model.UnpackedFloat (Sign)

def notANumber : Float := 0.0 / 0.0

def infinity : Float := 1.0 / 0.0

-- A decimal numeral: whole digits, digits behind a point, and a power of ten.
structure Numeral where
  whole : List Char
  fraction : List Char
  power : Int
deriving DecidableEq, Repr

-- The double nearest to a numeral.
def Numeral.toFloat (n : Numeral) : Float :=
  let power := n.power - n.fraction.length
  Float.ofScientific (ofDigits (n.whole ++ n.fraction)) (power < 0) power.natAbs

-- The power of ten behind an `e`: a possible sign and at least one digit, to the end.
def parsePower : List Char → Option Int
  | [] => some 0
  | c :: cs =>
    if c = 'e' ∨ c = 'E' then
      let (negative, digits) := takeSign cs
      (parseDigits digits).map (signed negative)
    else none

-- Digits with at most one point among them, at least one digit, and a possible power of ten.
def parseNumeral (cs : List Char) : Option Numeral :=
  let whole := cs.takeWhile isDigit
  let (fraction, rest) := match cs.dropWhile isDigit with
    | '.' :: rest => (rest.takeWhile isDigit, rest.dropWhile isDigit)
    | rest => ([], rest)
  if whole.isEmpty && fraction.isEmpty then none
  else (parsePower rest).map fun power => ⟨whole, fraction, power⟩

-- A double: a possible sign, then a numeral or one of the words for the infinity and not a number,
-- in any case. Numerals out of range give an infinity or a zero.
def parseFloat (s : String) : Option Float :=
  let (negative, body) := takeSign s.toList
  let withSign := fun (x : Float) => if negative then -x else x
  let word := Text.lowerAscii (String.ofList body)
  if word = "inf" ∨ word = "infinity" then some (withSign infinity)
  else if word = "nan" then some notANumber
  else (parseNumeral body).map fun n => withSign n.toFloat

-- The greatest integer that is not above `x`, held inside the signed 64-bit range; zero for not a
-- number.
def floorClamped (x : Float) : Int :=
  match parts x with
  | .notANumber => 0
  | .zero _ => 0
  | .infinity s => if s matches .negative then int64Min else int64Max
  | .finite s m e _ =>
    let n := signed (s matches .negative) m
    let whole := if 0 ≤ e then n * twoTo e.toNat else n.fdiv (twoTo (-e).toNat)
    max int64Min (min int64Max whole)

-- The smaller of two doubles; the other one if one of them is not a number. Of two that are equal,
-- as the zeros of both signs are, it is the second.
def leastFloat (a b : Float) : Float :=
  if a.isNaN || b ≤ a then b else a

def greatestFloat (a b : Float) : Float :=
  if a.isNaN || b ≥ a then b else a

end Datacube.Number

import Datacube.Number.Decimal
import Datacube.Number.Real
import Datacube.Text.Blank

namespace Datacube

-- A box with a lower and an upper coordinate on every axis of a reference system.
structure BoundingBox where
  crs : String
  lower : List Float
  upper : List Float

namespace BoundingBox

inductive Error where
  | dimensionMismatch (lower upper : Nat)
  | invertedAxis (axis : Nat)
  | invalidNumber (text : String)
deriving DecidableEq, Repr

def Error.message : Error → String
  | dimensionMismatch lower upper =>
    "Corner dimensions differ: " ++ Number.natText lower ++ " vs " ++ Number.natText upper
  | invertedAxis axis => "Lower corner is above upper corner on axis " ++ Number.natText axis
  | invalidNumber text => "Invalid number in corner: " ++ text

-- Corners have the same number of coordinates, at least one, and no lower one above its upper one.
def make (crs : String) (lower upper : List Float) : Except Error BoundingBox :=
  if lower.length ≠ upper.length ∨ lower = [] then
    .error (.dimensionMismatch lower.length upper.length)
  else
    match (lower.zip upper).findIdx? fun (lo, hi) => hi < lo with
    | some axis => .error (.invertedAxis axis)
    | none => .ok ⟨crs, lower, upper⟩

def parseCorner (text : String) : Except Error (List Float) :=
  (Text.words text).mapM fun word =>
    match Number.parseFloat word with
    | some x => .ok x
    | none => .error (.invalidNumber word)

def ofCorners (crs lower upper : String) : Except Error BoundingBox := do
  let lo ← parseCorner lower
  let hi ← parseCorner upper
  make crs lo hi

def dimension (box : BoundingBox) : Nat :=
  box.lower.length

def lowerText (box : BoundingBox) : String :=
  Number.floatTexts box.lower

def upperText (box : BoundingBox) : String :=
  Number.floatTexts box.upper

def contains (box : BoundingBox) (point : List Float) : Bool :=
  point.length == box.dimension &&
    (point.zip (box.lower.zip box.upper)).all fun (v, lo, hi) => lo ≤ v && v ≤ hi

end BoundingBox

end Datacube

import Datacube.Error
import Datacube.Number.Integer
import Datacube.Subset

namespace Datacube

-- The cells of an axis, counted by integers, and the subset that last narrowed them.
structure CellExtent where
  lo : Int
  hi : Int
  subset : Option Subset
deriving DecidableEq, Repr

namespace CellExtent

def make (lo hi : Int) : Result CellExtent :=
  if hi < lo then
    .error (.invalidMetadata ("[" ++ Number.intText lo ++ ":" ++ Number.intText hi ++ "]")
      "invalid cell domain element: lower bound cannot be larger than upper bound")
  else .ok ⟨lo, hi, none⟩

def ofBounds : Option Int → Option Int → Result CellExtent
  | some lo, some hi => make lo hi
  | _, _ =>
    .error (.invalidMetadata "cell domain" "invalid cell domain element: bounds may not be null")

def withLo (c : CellExtent) (lo : Int) : CellExtent :=
  { c with lo := lo }

def withHi (c : CellExtent) (hi : Int) : CellExtent :=
  { c with hi := hi }

-- The number of cells. A number that is negative or needs more than 64 bits counts as the greatest
-- one of 64 bits.
def count (c : CellExtent) : Nat :=
  let n := c.hi - c.lo + 1
  if 0 ≤ n ∧ n ≤ (Number.uint64Max : Int) then n.toNat else Number.uint64Max

-- The interval as a query writes it.
def interval (c : CellExtent) : String :=
  Number.intText c.lo ++ ":" ++ Number.intText c.hi

-- A bound in cells: blanks, then double quotes around it are dropped, and an open bound is the
-- current one.
def parseBound (axis value : String) (current : Int) : Result Int :=
  let bare := String.ofList (Text.stripEnds (· = '"') (Text.trim value).toList)
  if bare = Subset.openBound then .ok current
  else
    match Number.parseBig bare with
    | some n => .ok n
    | none => .error (.invalidParameter axis ("'" ++ bare ++ "' is not a valid pixel coordinate"))

-- New bounds, together with the subset they come from.
def applyResolved (_ : CellExtent) (s : Subset) (lo hi : Int) : CellExtent :=
  ⟨lo, hi, some s⟩

-- Narrow to a subset whose bounds are cells.
def applySubset (c : CellExtent) (s : Subset) : Result CellExtent := do
  let (low, high) := s.bounds
  let lo ← parseBound s.axis low c.lo
  let hi ← parseBound s.axis high c.hi
  if hi < lo then
    .error (.invalidParameter s.axis
      ("subset lower bound " ++ Number.intText lo ++ " is above upper bound " ++ Number.intText hi))
  else .ok (c.applyResolved s lo hi)

def text (c : CellExtent) : String :=
  "CellDomainElement [" ++ Number.intText c.lo ++ ", " ++ Number.intText c.hi ++ "]"

end CellExtent

end Datacube

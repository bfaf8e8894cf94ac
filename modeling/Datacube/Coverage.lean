import Datacube.Axis
import Datacube.BoundingBox

namespace Datacube

-- The subtypes of a coverage.
inductive CoverageKind where
  | grid
  | rectifiedGrid
  | referenceableGrid
  | multiPoint
  | other (label : String)
deriving DecidableEq, Repr

namespace CoverageKind

def ofLabel (label : String) : CoverageKind :=
  match Text.trim label with
  | "GridCoverage" => grid
  | "RectifiedGridCoverage" => rectifiedGrid
  | "ReferenceableGridCoverage" => referenceableGrid
  | "MultiPointCoverage" => multiPoint
  | label => other label

def label : CoverageKind → String
  | grid => "GridCoverage"
  | rectifiedGrid => "RectifiedGridCoverage"
  | referenceableGrid => "ReferenceableGridCoverage"
  | multiPoint => "MultiPointCoverage"
  | other label => label

def isGrid : CoverageKind → Bool
  | grid | rectifiedGrid | referenceableGrid => true
  | multiPoint | other _ => false

end CoverageKind

-- One field of the values a coverage holds. The allowed interval follows from the datatype if it is
-- not given.
structure RangeField where
  name : String
  datatype : String
  nilValues : List String := []
  description : String := ""
  uomCode : String := "10^0"
  allowedValues : Option (String × String) := none
deriving DecidableEq, Repr

structure CellBounds where
  lo : Option Int
  hi : Option Int
deriving DecidableEq, Repr

-- What a coverage says about itself besides its axes.
structure Description where
  rangeFields : List RangeField := []
  bbox : Option BoundingBox := none
  title : String := ""
  abstract : String := ""
  keywords : List String := []
  metadata : Option String := none
  nullSet : List String := []
  interpolationDefault : Option String := none
  offsetVectors : Option (List (List Float)) := none

-- A coverage as a metadata store describes it, before any check.
structure CoverageDef where
  name : String
  kind : String
  domain : List AxisDef
  cells : List CellBounds
  description : Description := {}

-- An axis together with its cells.
structure GridAxis where
  domain : Axis
  cells : CellExtent

-- An axis of which only some cells may be left. The native cells are those whose first one lies at
-- the lower bound of the axis.
structure AxisView where
  domain : Axis
  cells : CellExtent
  native : CellExtent

-- All cells of an axis.
def GridAxis.view (a : GridAxis) : AxisView :=
  ⟨a.domain, a.cells, a.cells⟩

-- A coverage whose axes have been checked.
structure Coverage where
  name : String
  kind : CoverageKind
  axes : List GridAxis
  description : Description

namespace Coverage

-- One axis of a coverage, unless its name is among those seen before. Its resolution follows from
-- the number of its cells.
def makeAxis (coverage : String) (seen : List String) (d : AxisDef) (cells : CellBounds) :
    Result GridAxis := do
  let axis ← Axis.ofDef d
  if axis.name ∈ seen then
    throw (.invalidMetadata axis.name ("axis is defined twice in coverage '" ++ coverage ++ "'"))
  let extent ← match CellExtent.ofBounds cells.lo cells.hi with
    | .ok extent => pure extent
    | .error _ => throw (.invalidMetadata axis.name "invalid cell domain bounds")
  if axis.numeric.isSome then
    return ⟨← axis.setResolution extent.count, extent⟩
  else
    return ⟨axis, extent⟩

def makeAxes (coverage : String) :
    List String → List (AxisDef × CellBounds) → Result (List GridAxis)
  | _, [] => .ok []
  | seen, (d, cells) :: rest => do
    let axis ← makeAxis coverage seen d cells
    let more ← makeAxes coverage (axis.domain.name :: seen) rest
    return axis :: more

def ofDef (d : CoverageDef) : Result Coverage := do
  let name := Text.trim d.name
  if name = "" then
    throw (.invalidMetadata "<unnamed coverage>" "coverage name may not be empty")
  if d.domain.length ≠ d.cells.length then
    throw (.invalidMetadata name
      (Number.natText d.domain.length ++ " domain elements but " ++
        Number.natText d.cells.length ++ " cell domain elements"))
  if d.domain.isEmpty then
    throw (.invalidMetadata name "coverage has no axes")
  let axes ← makeAxes name [] (d.domain.zip d.cells)
  return ⟨name, CoverageKind.ofLabel d.kind, axes, d.description⟩

def dimension (c : Coverage) : Nat :=
  c.axes.length

def axisLabels (c : Coverage) : List String :=
  c.axes.map (·.domain.name)

def axisIndex? (c : Coverage) (name : String) : Option Nat :=
  c.axes.findIdx? (·.domain.name = name)

def axis? (c : Coverage) (name : String) : Option GridAxis :=
  c.axes.find? (·.domain.name = name)

end Coverage

-- Distinct members in order of first occurrence.
def distinct (names : List String) : List String :=
  names.foldl (fun seen name => if name ∈ seen then seen else seen ++ [name]) []

-- The external system of an axis, or the grid for an axis that has none.
def Axis.crsOrGrid (a : Axis) : String :=
  a.externalCrs.getD Crs.grid

namespace Coverage

-- The external systems of all axes, without repetition.
def externalCrsList (c : Coverage) : List String :=
  distinct (c.axes.map (·.domain.crsOrGrid))

-- Whether all axes have the same external system, or all have none.
def hasSingleCrs (c : Coverage) : Bool :=
  match c.axes with
  | [] => false
  | first :: rest => rest.all fun a => a.domain.externalCrs == first.domain.externalCrs

-- An offset vector leaves its axis if a component of another axis is not zero.
def leavesAxis (i : Nat) (row : List Float) : Bool :=
  row.zipIdx.any fun (v, j) => j != i && v != 0

-- Offset vectors, if there are any, run along the axes.
def checkAligned (c : Coverage) : Result Unit :=
  match (c.description.offsetVectors.getD []).zipIdx.find? fun (row, i) => leavesAxis i row with
  | some (_, i) =>
    .error (.unsupportedCoverage
      ("coverage '" ++ c.name ++ "' has a rotated grid (offset vector " ++ Number.natText i ++
        " is not axis-aligned)"))
  | none => .ok ()

end Coverage

end Datacube

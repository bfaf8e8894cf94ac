import Datacube.Response.Request
import Datacube.Store

namespace Datacube.Response

-- A coverage as a request narrows it. Axes of slices are still there, with a single cell.
structure Context where
  requestedId : String
  coverage : Coverage
  axes : List AxisView

namespace Context

def checkWithin (s : Subset) (lo hi : Int) (extent : CellExtent) : Result Unit :=
  if hi < lo then
    .error (.invalidParameter s.axis
      ("subset lower bound " ++ Number.intText lo ++ " is above upper bound " ++ Number.intText hi))
  else if lo < extent.lo ∨ extent.hi < hi then
    .error (.invalidParameter s.axis
      ("subset " ++ s.text ++ " is outside the coverage extent " ++ extent.text))
  else .ok ()

-- Narrow one axis. Bounds on a multipoint coverage count cells and may leave the native ones;
-- otherwise they are resolved against the native cells and lie within them.
def narrowAxis (kind : CoverageKind) (axis : AxisView) (s : Subset) : Result AxisView :=
  if kind = .multiPoint then do
    let cells ← axis.cells.applySubset s
    return { axis with cells := cells }
  else do
    let (lo, hi) ← axis.domain.resolve s axis.native
    checkWithin s lo hi axis.native
    return { axis with cells := axis.cells.applyResolved s lo hi }

def narrow (c : Coverage) (axes : List AxisView) (s : Subset) : Result (List AxisView) :=
  match axes.zipIdx.find? fun (axis, _) => axis.domain.name = s.axis with
  | none => .error (.invalidAxis s.axis ("not an axis of coverage '" ++ c.name ++ "'"))
  | some (axis, i) => do
    let narrowed ← narrowAxis c.kind axis s
    return axes.set i narrowed

-- Read the requested coverage and apply the subsets in order.
def make (r : GetCoverage) (store : Store) : Result Context := do
  let coverage ← store.read r.id
  coverage.checkAligned
  let axes ← r.subsets.foldlM (narrow coverage) (coverage.axes.map GridAxis.view)
  return ⟨r.id, coverage, axes⟩

def coverageId (c : Context) : String :=
  c.coverage.name

def kind (c : Context) : CoverageKind :=
  c.coverage.kind

-- The cells of all axes.
def cells (c : Context) : List CellExtent :=
  c.axes.map (·.cells)

def isSliced (cells : CellExtent) : Bool :=
  cells.subset.any (·.isSlice)

-- The axes that are left in the answer.
def retained (c : Context) : List AxisView :=
  c.axes.filter fun axis => !isSliced axis.cells

def gridDimension (c : Context) : Nat :=
  c.retained.length

private def spaced (c : Context) (f : AxisView → String) : String :=
  " ".intercalate (c.retained.map f)

def axisLabels (c : Context) : String :=
  c.spaced (·.domain.name)

-- The unit of axes that name none.
def defaultUom : String := "10^0"

def uomLabels (c : Context) : String :=
  c.spaced fun axis => axis.domain.uom.getD defaultUom

def low (c : Context) : String :=
  c.spaced fun axis => Number.intText axis.cells.lo

def high (c : Context) : String :=
  c.spaced fun axis => Number.intText axis.cells.hi

-- The lower edge of the first cell, not below the axis.
def lowerCoordinate (axis : AxisView) (b : NumericBounds) : Float :=
  match axis.domain.coordinate axis.cells.lo axis.native with
  | some x => Number.greatestFloat x b.lo
  | none => b.lo

-- The upper edge of the last cell, not above the axis.
def upperCoordinate (axis : AxisView) (b : NumericBounds) : Float :=
  match axis.domain.coordinate (axis.cells.hi + 1) axis.native with
  | some x => Number.leastFloat x b.hi
  | none => b.hi

def lowerText (axis : AxisView) : String :=
  match axis.domain.numeric with
  | some b => Number.floatText (lowerCoordinate axis b)
  | none => (axis.domain.textual.map (·.lo)).getD ""

def upperText (axis : AxisView) : String :=
  match axis.domain.numeric with
  | some b => Number.floatText (upperCoordinate axis b)
  | none => (axis.domain.textual.map (·.hi)).getD ""

-- The corners in coordinates.
def domLow (c : Context) : String :=
  c.spaced lowerText

def domHigh (c : Context) : String :=
  c.spaced upperText

-- The reference system of the retained axes together, as an attribute value.
def srsName (c : Context) : String :=
  Crs.escape (Crs.compound (distinct (c.retained.map (·.domain.crsOrGrid))))

def indexText (cells : CellExtent) : String :=
  if isSliced cells then Number.intText cells.lo else cells.interval

-- The cells of all axes, a slice as a single one.
def sdom (c : Context) : String :=
  "[" ++ ",".intercalate (c.cells.map indexText) ++ "]"

-- The query that gets the requested cells.
def query (c : Context) : String :=
  let subscript := if c.cells.any (·.subset.isSome) then c.sdom else ""
  "select csv(c" ++ subscript ++ ") from " ++ c.coverageId ++ " as c"

end Context

end Datacube.Response

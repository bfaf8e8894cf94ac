import Datacube.AxisKind
import Datacube.CellExtent
import Datacube.Crs
import Datacube.Number.Decimal
import Datacube.Number.Real
import Datacube.Text.Quoted
import Datacube.Timestamp

namespace Datacube

structure NumericBounds where
  lo : Float
  hi : Float

structure TextualBounds where
  lo : String
  hi : String
deriving DecidableEq, Repr

-- An axis as a metadata store describes it, before any check.
structure AxisDef where
  name : String
  kind : String
  numLo : Option Float := none
  numHi : Option Float := none
  strLo : Option String := none
  strHi : Option String := none
  crsSet : List String := []
  uom : Option String := none

-- An axis in the coordinates of its reference systems. The resolution is the size of one cell.
structure Axis where
  name : String
  kind : AxisKind
  numeric : Option NumericBounds
  textual : Option TextualBounds
  crsSet : List String
  uom : Option String
  resolution : Number.Decimal

def NumericBounds.ofPair? : Option Float → Option Float → Option NumericBounds
  | some lo, some hi => some ⟨lo, hi⟩
  | _, _ => none

def TextualBounds.ofPair? : Option String → Option String → Option TextualBounds
  | some lo, some hi => some ⟨lo, hi⟩
  | _, _ => none

def TextualBounds.hasEmpty (b : TextualBounds) : Bool :=
  b.lo == "" || b.hi == ""

-- Two timestamps in the wrong order. Bounds that are not both timestamps have no order.
def TextualBounds.isReversed (b : TextualBounds) : Bool :=
  match Timestamp.parse? b.lo, Timestamp.parse? b.hi with
  | some lo, some hi => hi.before lo
  | _, _ => false

namespace Axis

-- The complete pairs of bounds that a definition may keep: one pair and nothing of the other, or
-- on a time axis whatever pairs are complete.
def chooseBounds (name : String) (kind : AxisKind) (d : AxisDef) :
    Result (Option NumericBounds × Option TextualBounds) :=
  let numeric := NumericBounds.ofPair? d.numLo d.numHi
  let textual := TextualBounds.ofPair? d.strLo d.strHi
  let anyNumeric := d.numLo.isSome || d.numHi.isSome
  let anyTextual := d.strLo.isSome || d.strHi.isSome
  if textual.any (·.hasEmpty) then
    .error (.invalidMetadata name "string bounds may not be empty")
  else if numeric.isSome && !anyTextual then .ok (numeric, none)
  else if textual.isSome && !anyNumeric then .ok (none, textual)
  else if kind = .time then .ok (numeric, textual)
  else
    .error (.invalidMetadata name
      ("axis of type '" ++ kind.label ++ "' needs either a numeric or a string bound pair"))

def checkNumeric (name : String) : Option NumericBounds → Result Unit
  | none => .ok ()
  | some b =>
    if !b.lo.isFinite || !b.hi.isFinite then
      .error (.invalidMetadata name "numeric bounds must be finite")
    else if b.hi < b.lo then
      .error (.invalidMetadata name
        ("lower bound " ++ Number.floatText b.lo ++ " is larger than upper bound " ++
          Number.floatText b.hi))
    else .ok ()

-- Axes in space and time are measured by numbers.
def checkMeasured (name : String) (kind : AxisKind) (numeric : Option NumericBounds) :
    Result Unit :=
  if kind.isSpatial && numeric.isNone then
    .error (.invalidMetadata name "spatial axes must have numeric bounds")
  else if kind = .time && numeric.isNone then
    .error (.invalidMetadata name "time axes must have numeric bounds")
  else .ok ()

def checkTimeOrder (name : String) : Option TextualBounds → Result Unit
  | none => .ok ()
  | some b =>
    if b.isReversed then
      .error (.invalidMetadata name ("time bound " ++ b.lo ++ " is after " ++ b.hi))
    else .ok ()

-- The kind a definition names, if it is one of the allowed kinds.
def chooseKind (name : String) (label : String) (allowed : List AxisKind) : Result AxisKind :=
  match (AxisKind.ofLabel? label).filter (· ∈ allowed) with
  | some kind => .ok kind
  | none =>
    .error (.invalidMetadata name
      ("axis type '" ++ label ++ "' is not one of [" ++
        ", ".intercalate (allowed.map AxisKind.label) ++ "]"))

-- Check a definition and build the axis, with cells of size one.
def make (d : AxisDef) (allowed : List AxisKind) : Result Axis := do
  let name := Text.trim d.name
  if name = "" then
    throw (.invalidMetadata "<unnamed axis>" "domain element name may not be empty")
  let label := Text.trim d.kind
  if label = "" then
    throw (.invalidMetadata name "domain element type may not be empty")
  let kind ← chooseKind name label allowed
  let (numeric, textual) ← chooseBounds name kind d
  checkNumeric name numeric
  checkMeasured name kind numeric
  checkTimeOrder name textual
  return {
    name := name
    kind := kind
    numeric := numeric
    textual := textual
    crsSet := Crs.normalize d.crsSet
    uom := d.uom.filter (· ≠ "")
    resolution := .one }

def ofDef (d : AxisDef) : Result Axis :=
  make d AxisKind.all

-- The first reference system other than the grid.
def externalCrs (a : Axis) : Option String :=
  a.crsSet.find? fun crs => !Crs.isGrid crs

def resolutionFloat (a : Axis) : Float :=
  a.resolution.toFloat

def withCrsSet (a : Axis) (crsSet : List String) : Axis :=
  { a with crsSet := Crs.normalize crsSet }

def exactDecimal (x : Float) : Result Number.Decimal :=
  match Number.Decimal.ofFloat x with
  | some d => .ok d
  | none => .error (.internal ("cannot represent " ++ Number.floatText x ++ " exactly"))

-- Take the resolution from the number of cells: the exact extent divided by it, rounded up at the
-- scale of the extent, so that all cells together cover the extent.
def setResolution (a : Axis) (cells : Nat) : Result Axis :=
  if cells = 0 then .error (.invalidMetadata a.name "grid dimension must be positive")
  else
    match a.numeric with
    | none => .error (.invalidMetadata a.name "resolution requires numeric bounds")
    | some b => do
      let hi ← exactDecimal b.hi
      let lo ← exactDecimal b.lo
      return { a with resolution := (hi.sub lo).divUp cells }

-- The cell that holds a coordinate, counted from the first cell at the lower bound.
def cellIndex (a : Axis) (value : Float) (cells : CellExtent) : Result Int :=
  match a.numeric with
  | none => .error (.invalidMetadata a.name "axis has no numeric bounds")
  | some b =>
    if value < b.lo ∨ b.hi < value then
      .error (.invalidParameter a.name
        ("coordinate " ++ Number.floatText value ++ " is outside the axis extent [" ++
          Number.floatText b.lo ++ ", " ++ Number.floatText b.hi ++ "]"))
    else if a.resolutionFloat ≤ 0 then
      .error (.invalidMetadata a.name "axis resolution must be positive")
    else
      let offset := Number.floorClamped ((value - b.lo) / a.resolutionFloat)
      .ok (min (cells.lo + offset) cells.hi)

-- The coordinate of the lower edge of a cell.
def coordinate (a : Axis) (index : Int) (cells : CellExtent) : Option Float :=
  a.numeric.map fun b => b.lo + Float.ofInt (index - cells.lo) * a.resolutionFloat

-- A bound in cells; an open one is the current bound.
def cellBound (axis text : String) (current : Int) : Result Int :=
  if Text.trim text = Subset.openBound then .ok current
  else
    match Number.parseBig (Text.trim text) with
    | some n => .ok n
    | none => .error (.invalidParameter axis ("'" ++ text ++ "' is not a pixel index"))

def parseCoordinate (axis text : String) : Result Float :=
  match Number.parseFloat (Text.trim text) with
  | some x => .ok x
  | none => .error (.invalidParameter axis ("'" ++ text ++ "' is not a numeric coordinate"))

-- A bound in coordinates, as the cell that holds it; an open one is the current bound.
def coordinateBound (a : Axis) (text : String) (native : CellExtent) (current : Int) :
    Result Int :=
  if text = Subset.openBound then .ok current
  else do
    let x ← parseCoordinate a.name text
    a.cellIndex x native

-- Whether the bounds of a subset count cells.
def inGrid (s : Subset) : Bool :=
  s.crs.all Crs.isGrid

-- The cells that a subset selects on an axis already narrowed to `current`. Coordinates are
-- converted against the `native` cells, whose first one lies at the lower bound of the axis.
def resolveOn (a : Axis) (s : Subset) (native current : CellExtent) : Result (Int × Int) :=
  let (low, high) := s.bounds
  if inGrid s then do
    let lo ← cellBound a.name low current.lo
    let hi ← cellBound a.name high current.hi
    return (lo, hi)
  else
    let crs := s.crs.getD ""
    if crs ∈ a.crsSet then do
      let lo ← a.coordinateBound low native current.lo
      let hi ← a.coordinateBound high native current.hi
      return (lo, hi)
    else
      .error (.unimplemented ("subsetting axis '" ++ a.name ++ "' in CRS '" ++ crs ++ "'"))

def resolve (a : Axis) (s : Subset) (cells : CellExtent) : Result (Int × Int) :=
  a.resolveOn s cells cells

-- Axes agree if name and kind do and one of their pairs of bounds does; numbers are compared as
-- numbers, so the two zeros agree.
def same (a b : Axis) : Bool :=
  a.name == b.name && a.kind == b.kind &&
    ((match a.numeric, b.numeric with
      | some p, some q => p.lo == q.lo && p.hi == q.hi
      | _, _ => false) ||
    (match a.textual, b.textual with
      | some p, some q => p == q
      | _, _ => false))

def text (a : Axis) : String :=
  let numeric := match a.numeric with
    | some b =>
      ", numLo: '" ++ Number.floatText b.lo ++ "', numHi: '" ++ Number.floatText b.hi ++ "'"
    | none => ""
  let textual := match a.textual with
    | some b => ", strLo: '" ++ b.lo ++ "', strHi: '" ++ b.hi ++ "'"
    | none => ""
  "DomainElement \x7b name: '" ++ a.name ++ "', type: '" ++ a.kind.label ++ "'" ++ numeric ++
    textual ++ ", crsSet: " ++ Text.quoteList a.crsSet ++ " \x7d"

end Axis

end Datacube

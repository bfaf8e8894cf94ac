import Datacube.Coverage

namespace Datacube

-- What is known about a coverage while an expression over it is put together.
structure Schema where
  name : String
  kind : CoverageKind
  axes : List AxisView
  rangeFields : List RangeField
  nullSet : List String := []
  interpolationDefault : Option String := none
  interpolationSet : List String := []
  bbox : Option BoundingBox := none

namespace Schema

def ofCoverage (c : Coverage) : Schema where
  name := c.name
  kind := c.kind
  axes := c.axes.map GridAxis.view
  rangeFields := c.description.rangeFields
  nullSet := c.description.nullSet
  interpolationDefault := c.description.interpolationDefault
  interpolationSet := c.description.interpolationDefault.toList
  bbox := c.description.bbox

def dimension (s : Schema) : Nat :=
  s.axes.length

def axisLabels (s : Schema) : List String :=
  s.axes.map (·.domain.name)

def axisIndex? (s : Schema) (name : String) : Option Nat :=
  s.axes.findIdx? (·.domain.name = name)

-- An axis of a given name together with its place.
def requireAxis (s : Schema) (name : String) : Result (Nat × AxisView) :=
  match s.axes.zipIdx.find? fun (axis, _) => axis.domain.name = name with
  | some (axis, i) => .ok (i, axis)
  | none => .error (.invalidAxis name ("coverage '" ++ s.name ++ "' has no such axis"))

-- The cells of all axes in order, as pairs of bounds.
def extents (s : Schema) : List (Int × Int) :=
  s.axes.map fun a => (a.cells.lo, a.cells.hi)

-- Schemas are compatible if they have the same cells along the same number of axes.
def isCompatible (s t : Schema) : Bool :=
  s.extents == t.extents

def ensureCompatible (s t : Schema) (context : String) : Result Unit :=
  if s.isCompatible t then .ok ()
  else
    .error (.incompatibleCoverages
      (context ++ ": '" ++ s.name ++ "' and '" ++ t.name ++ "' differ in dimensionality or extent"))

-- The spatial domain over all axes.
def sdom (s : Schema) : String :=
  "[" ++ ",".intercalate (s.axes.map (·.cells.interval)) ++ "]"

def cellCount (s : Schema) : Int :=
  (s.axes.map fun a => a.cells.hi - a.cells.lo + 1).foldl (· * ·) 1

def hasField (s : Schema) (field : String) : Bool :=
  s.rangeFields.any (·.name = field)

-- All fields get the same datatype.
def withDatatype (s : Schema) (datatype : String) : Schema :=
  { s with rangeFields := s.rangeFields.map fun f => { f with datatype := datatype } }

end Schema

end Datacube

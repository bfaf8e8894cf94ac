import Datacube.Store

-- A small store of coverages to try things out on.
namespace Datacube.Sample

def wgs84 : String := "http://www.opengis.net/def/crs/EPSG/0/4326"

private def axis (name kind : String) (lo hi : Float) (crsSet : List String) : AxisDef :=
  { name := name, kind := kind, numLo := some lo, numHi := some hi, crsSet := crsSet }

private def cells (lo hi : Int) : CellBounds :=
  ⟨some lo, some hi⟩

-- A rectified grid with cells of five degrees along both axes.
def airTemperature (name : String) : CoverageDef where
  name := name
  kind := "RectifiedGridCoverage"
  domain := [axis "x" "x" 0 100 [wgs84], axis "y" "y" 0 50 [wgs84]]
  cells := [cells 0 19, cells 0 9]
  description := {
    rangeFields := [{
      name := "value"
      datatype := "float"
      nilValues := ["-9999"]
      description := "Mean air temperature" }]
    bbox := some ⟨wgs84, [0, 0], [100, 50]⟩
    title := "Mean summer air temperature"
    abstract := "Seasonal mean of 2m air temperature"
    keywords := ["temperature", "climate"] }

-- An image of three bands whose coordinates are its cells.
def image : CoverageDef where
  name := "rgb"
  kind := "GridCoverage"
  domain := [axis "x" "x" 0 399 [], axis "y" "y" 0 343 []]
  cells := [cells 0 399, cells 0 343]
  description := {
    rangeFields := [
      { name := "red", datatype := "char" },
      { name := "green", datatype := "char" },
      { name := "blue", datatype := "char" }] }

def row : CoverageDef where
  name := "tiny"
  kind := "GridCoverage"
  domain := [axis "x" "x" 0 9 []]
  cells := [cells 0 9]
  description := { rangeFields := [{ name := "value", datatype := "short" }] }

def pointCloud : CoverageDef where
  name := "pointcloud"
  kind := "MultiPointCoverage"
  domain := [axis "x" "x" 0 100 [wgs84], axis "y" "y" 0 100 [wgs84]]
  cells := [cells 0 100, cells 0 100]
  description := { rangeFields := [{ name := "intensity", datatype := "float" }] }

def points : List PointRecord :=
  [⟨[10, 10], ["1"]⟩, ⟨[20, 80], ["2"]⟩, ⟨[70, 30], ["3"]⟩]

def definitions : List CoverageDef :=
  [airTemperature "mean_summer_airtemp", airTemperature "mean_winter_airtemp", image, row,
   pointCloud]

-- The definitions are valid, so the store holds all of them.
def store : Store :=
  match Store.ofDefs definitions with
  | .ok s => s.insertPoints "pointcloud" points
  | .error _ => .empty

end Datacube.Sample

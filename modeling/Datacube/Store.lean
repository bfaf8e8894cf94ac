import Datacube.Coverage

namespace Datacube

-- One point of a multipoint coverage.
structure PointRecord where
  position : List Float
  values : List String

-- Checked coverages and points by coverage name, each list sorted by name.
structure Store where
  coverages : List (String × Coverage) := []
  points : List (String × List PointRecord) := []

namespace Store

-- Put a value under a name, keeping the names sorted; an old value of the name goes.
def put {α : Type} (name : String) (value : α) : List (String × α) → List (String × α)
  | [] => [(name, value)]
  | (other, old) :: rest =>
    if name = other then (name, value) :: rest
    else if name < other then (name, value) :: (other, old) :: rest
    else (other, old) :: put name value rest

def empty : Store := {}

def insert (s : Store) (c : Coverage) : Store :=
  { s with coverages := put c.name c s.coverages }

def insertPoints (s : Store) (id : String) (points : List PointRecord) : Store :=
  { s with points := put id points s.points }

-- Check the definitions and add the coverages in order.
def insertDefs (s : Store) (defs : List CoverageDef) : Result Store :=
  defs.foldlM (fun s d => do return s.insert (← Coverage.ofDef d)) s

def ofDefs (defs : List CoverageDef) : Result Store :=
  empty.insertDefs defs

def read (s : Store) (id : String) : Result Coverage :=
  match s.coverages.lookup id with
  | some c => .ok c
  | none => .error (.unknownCoverage id)

def ids (s : Store) : List String :=
  s.coverages.map (·.1)

def pointsOf (s : Store) (id : String) : List PointRecord :=
  (s.points.lookup id).getD []

-- Whether each coordinate that has cells lies between their bounds.
def PointRecord.within (p : PointRecord) (cells : List CellExtent) : Bool :=
  (p.position.zip cells).all fun (v, cell) => Float.ofInt cell.lo ≤ v && v ≤ Float.ofInt cell.hi

-- A point as a response lists it. Its number is its place in the stored list.
def pointMember (requested srsName : String) (point : PointRecord) (i : Nat) : String :=
  "<gml:Point gml:id=\"" ++ requested ++ "-p" ++ Number.natText i ++ "\" srsName=\"" ++ srsName ++
    "\"><gml:pos>" ++ Number.floatTexts point.position ++ "</gml:pos></gml:Point>\n"

-- The members of the stored points that lie in the cells.
def pointMembers (s : Store) (c : Coverage) (id requested : String) (cells : List CellExtent) :
    List String :=
  let srsName := Crs.escape (Crs.compound c.externalCrsList)
  ((s.pointsOf id).zipIdx.filter fun (point, _) => PointRecord.within point cells).map
    fun (point, i) => pointMember requested srsName point i

def coverageData (s : Store) (id requested : String) (cells : List CellExtent) : Result String := do
  let c ← s.read id
  return String.join (s.pointMembers c id requested cells)

end Store

end Datacube

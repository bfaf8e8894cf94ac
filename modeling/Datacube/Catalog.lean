import Datacube.Environment.Expansion
import Datacube.FileSystem
import Datacube.Json.Decode
import Datacube.Text.Quoted

namespace Datacube

-- Definitions of coverages, and points by coverage name, sorted by it.
structure Catalog where
  coverages : List CoverageDef := []
  points : List (String × List PointRecord) := []

-- Why a catalog cannot be used.
inductive CatalogError where
  | unreadable (path reason : String)
  | expansion (cause : Environment.ExpansionError)
  | malformed (path : String)
  | invalidCoverage (cause : Error)
  | unknownPoints (id : String)
deriving DecidableEq, Repr

namespace CatalogError

def message : CatalogError → String
  | unreadable path _ => "Failed to read catalog from " ++ Text.quote path
  | expansion cause => cause.message
  | malformed path => "Failed to parse catalog YAML from " ++ Text.quote path
  | invalidCoverage _ => "Invalid coverage metadata in catalog"
  | unknownPoints id => "points given for unknown coverage '" ++ id ++ "'"

-- What lies behind the message, outermost first.
def causes : CatalogError → List String
  | unreadable _ reason => [reason]
  | expansion (.unset _) => ["environment variable not found"]
  | invalidCoverage cause => [cause.message]
  | expansion (.unclosed _) | malformed _ | unknownPoints _ => []

end CatalogError

namespace Catalog

-- Points by coverage name. Of several lists under one name the last counts.
def readPoints (v : Json) : Option (List (String × List PointRecord)) := do
  let add := fun (points : List (String × List PointRecord)) (id, v) => do
    return Store.put id (← Json.points? .catalog v) points
  (← Json.members? v).foldlM add []

def ofJson? (v : Json) : Option Catalog := do
  let m ← Json.members? v
  return {
    coverages := ← Json.required .catalog m "coverages" (Json.listOf (Json.coverageDef? .catalog))
    points := ← Json.withDefault .catalog m "points" [] readPoints }

-- Read a catalog from a text, in which references to variables are expanded first.
def parse (env : Environment) (path text : String) : Except CatalogError Catalog :=
  match env.expand text with
  | .error cause => .error (.expansion cause)
  | .ok expanded =>
    match (Json.parse? .catalog expanded).bind ofJson? with
    | some catalog => .ok catalog
    | none => .error (.malformed path)

def load (env : Environment) (path : String) (entry : FileEntry) : Except CatalogError Catalog :=
  match entry.read with
  | .error reason => .error (.unreadable path reason)
  | .ok text => parse env path text

-- Points belong to a coverage that is defined under exactly their name.
def addPoints (c : Catalog) (s : Store) (points : String × List PointRecord) :
    Except CatalogError Store :=
  if c.coverages.any (·.name = points.1) then .ok (s.insertPoints points.1 points.2)
  else .error (.unknownPoints points.1)

-- Check every coverage and store them with their points.
def toStore (c : Catalog) : Except CatalogError Store :=
  match Store.ofDefs c.coverages with
  | .error cause => .error (.invalidCoverage cause)
  | .ok s => c.points.foldlM c.addPoints s

end Catalog

end Datacube

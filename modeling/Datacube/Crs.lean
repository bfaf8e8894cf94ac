import Datacube.Number.Integer
import Datacube.Text.Case
import Datacube.Text.Pieces

-- Coordinate reference systems are named by plain texts. Every axis has the grid reference system,
-- in which its cells are counted, and may have external ones.
namespace Datacube.Crs

def grid : String := "CRS:1"

def isGrid (crs : String) : Bool :=
  Text.sameFolded (Text.trim crs) grid

-- Add a name that is neither empty nor there already.
def addName (names : List String) (crs : String) : List String :=
  let name := Text.trim crs
  if name = "" ∨ name ∈ names then names else names ++ [name]

def withGrid (names : List String) : List String :=
  if names.any isGrid then names else names ++ [grid]

-- The distinct names in order of first occurrence, with the grid system among them.
def normalize (names : List String) : List String :=
  withGrid (names.foldl addName [])

def compoundStart : String := "http://www.opengis.net/def/crs-compound?"

def numbered (names : List String) : List String :=
  names.zipIdx.map fun (crs, i) => Number.natText (i + 1) ++ "=" ++ crs

-- One name for a list of systems: several are numbered from one in a compound name.
def compound : List String → String
  | [] => grid
  | [single] => single
  | many => compoundStart ++ "&".intercalate (numbered many)

-- The systems of a compound name; parts without a number are dropped. Any other name is its own
-- single part.
def split (name : String) : List String :=
  match Text.afterStart compoundStart.toList name.toList with
  | some query =>
    (Text.pieces '&' query).filterMap fun part =>
      (Text.cut '=' part).map fun (_, crs) => String.ofList crs
  | none => [name]

def escape (name : String) : String :=
  Text.replaceEach (fun c => if c = '&' then "&amp;".toList else [c]) name

end Datacube.Crs

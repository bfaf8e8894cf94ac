import Datacube.Error
import Datacube.Subset
import Datacube.Text.Case

namespace Datacube.Response

def gmlType : String := "application/gml+xml"

def xmlType : String := "application/xml"

-- A request for a coverage or a part of it.
structure GetCoverage where
  id : String
  format : Option String := none
  subsets : List Subset := []
  multipart : Bool := false
deriving DecidableEq, Repr

namespace GetCoverage

def subsetFor (r : GetCoverage) (axis : String) : Option Subset :=
  r.subsets.find? (·.axis = axis)

-- Whether the answer is a single document.
def wantsGml (r : GetCoverage) : Bool :=
  !r.multipart && r.format.all (· = gmlType)

end GetCoverage

-- The parameters of a request in a query string.
structure KeyValues where
  service : Option String := none
  request : Option String := none
  version : Option String := none
  coverageId : Option String := none
  format : Option String := none
  mediaType : Option String := none
  subsets : List String := []
deriving DecidableEq, Repr

inductive ServiceRequest where
  | getCapabilities (version : Option String)
  | getCoverage (request : GetCoverage)
deriving DecidableEq, Repr

namespace KeyValues

-- Subsets in order, at most one for an axis.
def parseSubsets : List Subset → List String → Result (List Subset)
  | earlier, [] => .ok earlier
  | earlier, text :: rest =>
    match Subset.parse text with
    | .error e => .error (.invalidParameter "SUBSET" e.message)
    | .ok subset =>
      if earlier.any (·.axis = subset.axis) then
        .error (.invalidAxis subset.axis "axis subsetted more than once")
      else parseSubsets (earlier ++ [subset]) rest

def toGetCoverage (p : KeyValues) : Result GetCoverage :=
  match p.coverageId.filter fun id => Text.trim id ≠ "" with
  | none => .error (.invalidParameter "COVERAGEID" "missing")
  | some id => do
    let subsets ← parseSubsets [] p.subsets
    return {
      id := Text.trim id
      format := p.format
      subsets := subsets
      multipart := p.mediaType.any fun m => Text.sameFolded m "multipart/related" }

def toRequest (p : KeyValues) : Result ServiceRequest :=
  if !p.service.any fun s => Text.sameFolded s "WCS" then
    .error (.invalidParameter "SERVICE" "SERVICE must be WCS")
  else
    match p.request with
    | some "GetCapabilities" => .ok (.getCapabilities p.version)
    | some "GetCoverage" => do return .getCoverage (← p.toGetCoverage)
    | some other => .error (.invalidParameter "REQUEST" ("Unknown request: " ++ other))
    | none => .error (.invalidParameter "REQUEST" "missing")

end KeyValues

end Datacube.Response

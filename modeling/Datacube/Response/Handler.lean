import Datacube.Response.Document
import Datacube.Response.Execution

namespace Datacube.Response

-- A document to send, with its type and status.
structure Reply where
  mime : String
  xml : String
  status : Nat := 200
deriving DecidableEq, Repr

-- Fill a grid's document with the cells that the array engine gives. Its limits are those of the
-- result if they are reported.
def gridDocument (x : Executor) (t : Templates) (settings : ResponseSettings) (c : Context) :
    Result String := do
  let gml ← document t settings c .gridCoverage false
  let result ← x.execute c.query
  let (low, high) ← match result.sdom with
    | some sdom => domainBounds sdom
    | none => pure (c.low, c.high)
  let gml := substitute gml [("low", low), ("high", high), ("axisLabels", c.axisLabels)]
  let csv ← result.payload.toText
  return addCoverageData gml csv

-- The bounds of all axes, those of slices as well.
def joinBounds (c : Context) (bound : CellExtent → Int) : String :=
  " ".intercalate (c.cells.map fun cells => Number.intText (bound cells))

def multiPointDocument (store : Store) (t : Templates) (settings : ResponseSettings) (c : Context) :
    Result String := do
  let gml ← document t settings c .multiPointCoverage false
  let members ← store.coverageData c.coverageId c.requestedId c.cells
  return substitute gml
    [("pointMembers", members),
     ("low", joinBounds c (·.lo)),
     ("high", joinBounds c (·.hi))]

-- Answer a request for a coverage.
def handle (store : Store) (x : Executor) (t : Templates) (settings : ResponseSettings)
    (r : GetCoverage) : Result Reply := do
  let c ← Context.make r store
  let gml ←
    if c.kind = .multiPoint then multiPointDocument store t settings c
    else if c.kind.isGrid then gridDocument x t settings c
    else throw (unsupportedKind c)
  return { mime := gmlType, xml := gml }

end Datacube.Response

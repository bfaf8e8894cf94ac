import Datacube.Markup.Entity
import Datacube.Response.Context
import Datacube.Response.Template
import Datacube.Response.TupleList
import Datacube.Settings

namespace Datacube.Response

open Markup (escape escapeText)

-- The element of the domain set of a grid.
def gridElement? : CoverageKind → Option String
  | .grid => some "Grid"
  | .rectifiedGrid => some "RectifiedGrid"
  | .referenceableGrid => some "ReferenceableGridByVectors"
  | .multiPoint | .other _ => none

def unsupportedKind (c : Context) : Error :=
  .unsupportedCoverage ("coverage '" ++ c.coverageId ++ "' has subtype " ++ c.kind.label)

-- The system and dimension of the bounding box, as attributes.
def srsGroup (c : Context) : String :=
  match c.coverage.description.bbox with
  | some box =>
    " srsName=\"" ++ escape box.crs ++ "\" srsDimension=\"" ++ Number.natText box.dimension ++ "\""
  | none => ""

-- Free metadata is put in as it is.
def metadataBlock (c : Context) : String :=
  match c.coverage.description.metadata with
  | some text =>
    if Text.trim text = "" then "" else "  <gmlcov:metadata>" ++ text ++ "</gmlcov:metadata>\n"
  | none => ""

def described (tag text : String) : String :=
  if text = "" then "" else "  <ows:" ++ tag ++ ">" ++ escapeText text ++ "</ows:" ++ tag ++ ">\n"

def keywordBlock (keywords : List String) : String :=
  if keywords.isEmpty then ""
  else
    "  <ows:Keywords>\n" ++
      String.join (keywords.map fun k =>
        "    <ows:Keyword>" ++ escapeText k ++ "</ows:Keyword>\n") ++
      "  </ows:Keywords>\n"

-- Title, abstract and keywords, as far as there are any.
def descriptions (c : Context) : String :=
  let d := c.coverage.description
  described "Title" d.title ++ described "Abstract" d.abstract ++ keywordBlock d.keywords

def nilValue (value : String) : String :=
  "              <swe:nilValue reason=\"\">" ++ escapeText value ++ "</swe:nilValue>\n"

def allowedText (f : RangeField) : String :=
  match f.allowedValues <|> datatypeInterval? f.datatype with
  | some (lo, hi) => lo ++ " " ++ hi
  | none => ""

def fieldValues (settings : ResponseSettings) (f : RangeField) : List (String × String) :=
  [("fieldName", f.name),
   ("componentName", f.name),
   ("datatype", settings.datatypeUrn ++ f.datatype),
   ("nilValues", String.join (f.nilValues.map nilValue)),
   ("fieldDescr", escapeText f.description),
   ("allowedValues", allowedText f),
   ("code", f.uomCode)]

def rangeFields (t : Templates) (settings : ResponseSettings) (c : Context) : Result String := do
  let fields ← c.coverage.description.rangeFields.mapM fun f =>
    t.render .rangeField (fieldValues settings f)
  return String.join fields

-- A row for each retained axis: its resolution in its own place and zero elsewhere.
def offsetRows (c : Context) : List String :=
  let resolutions := c.retained.map (·.domain.resolution.text)
  resolutions.zipIdx.map fun (resolution, i) =>
    " ".intercalate ((List.range resolutions.length).map fun j => if j = i then resolution else "0")

-- The origin and offset vectors of a rectified grid. Without a bounding box there are none.
def additions (t : Templates) (c : Context) : Result String :=
  if c.kind ≠ .rectifiedGrid ∨ c.coverage.description.bbox.isNone then .ok ""
  else do
    let origin ← t.render .rectifiedGridOrigin
      [("pointId", c.coverageId ++ "-origin"),
       ("srsName", c.srsName),
       ("originPos", c.domLow),
       ("uomLabels", c.uomLabels)]
    let offsets ← (offsetRows c).mapM fun row =>
      t.render .offsetVector
        [("srsName", c.srsName),
         ("uomLabels", c.uomLabels),
         ("offsets", row)]
    return origin ++ "\n" ++ "\n".intercalate offsets

-- The element of the domain set: that of the template for points, or of the grid.
def domainElement (template : TemplateName) (c : Context) : Result String :=
  if template = .multiPointCoverage then .ok "MultiPoint"
  else
    match gridElement? c.kind with
    | some element => .ok element
    | none => .error (unsupportedKind c)

-- Bounds and labels that a template may also get.
def boundValues (template : TemplateName) (withBounds : Bool) (c : Context) :
    List (String × String) :=
  if withBounds then [("low", c.low), ("high", c.high), ("axisLabels", c.axisLabels)]
  else if template = .multiPointCoverage then [("axisLabels", c.axisLabels)]
  else []

-- A document with everything but the cells. Without bounds, the holes for the grid's limits stay.
def document (t : Templates) (settings : ResponseSettings) (c : Context) (template : TemplateName)
    (withBounds : Bool) : Result String := do
  let element ← domainElement template c
  let fields ← rangeFields t settings c
  let added ← additions t c
  let gridId := c.coverageId ++ "-grid"
  let values :=
    [("descriptions", descriptions c),
     ("coverageId", c.coverageId),
     ("coverageType", c.kind.label),
     ("coverageSubtype", c.kind.label),
     ("gridId", gridId),
     ("mpId", "multipoint_" ++ gridId),
     ("gridDimension", Number.natText c.gridDimension),
     ("gridType", element),
     ("uomLabels", c.uomLabels),
     ("rangeFields", fields),
     ("srsgroup", srsGroup c),
     ("srsName", c.srsName),
     ("lowerCorner", c.domLow),
     ("upperCorner", c.domHigh),
     ("metadata", metadataBlock c),
     ("additions", added)]
  t.render template (values ++ boundValues template withBounds c)

-- Put cells into the range set of a document.
def addCoverageData (gml csv : String) : String :=
  substitute gml [("coverageData", dataBlock (tupleList csv))]

end Datacube.Response

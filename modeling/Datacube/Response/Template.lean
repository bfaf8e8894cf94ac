import Datacube.Error
import Datacube.FileSystem
import Datacube.Text.Blank
import Datacube.Text.Pieces

namespace Datacube.Response

-- A template is text with holes. As text, a hole is its name between braces.
inductive Piece where
  | literal (text : String)
  | hole (name : String)
deriving DecidableEq, Repr

def holeText (name : String) : String :=
  "\x7b" ++ name ++ "\x7d"

def Piece.text : Piece → String
  | literal text => text
  | hole name => holeText name

def templateText (pieces : List Piece) : String :=
  String.join (pieces.map Piece.text)

-- Put `value` for every hole of the given name.
def fillHole (template name value : String) : String :=
  String.ofList
    (Text.replaceMark '\x7b' (name.toList ++ ['\x7d']) value.toList template.toList)

-- Fill holes one name after the other. A value may bring holes of later names; holes without a
-- value stay.
def substitute (template : String) (values : List (String × String)) : String :=
  values.foldl (fun text (name, value) => fillHole text name value) template

-- The templates that responses are made from.
inductive TemplateName where
  | gridCoverage
  | multiPointCoverage
  | rangeField
  | rectifiedGridOrigin
  | offsetVector
  | exceptionReport
deriving DecidableEq, Repr

namespace TemplateName

def all : List TemplateName :=
  [gridCoverage, multiPointCoverage, rangeField, rectifiedGridOrigin, offsetVector, exceptionReport]

def label : TemplateName → String
  | gridCoverage => "GridCoverage"
  | multiPointCoverage => "MultiPointCoverage"
  | rangeField => "RangeField"
  | rectifiedGridOrigin => "RectifiedGridCoverage"
  | offsetVector => "RectifiedGridCoverageOffsets"
  | exceptionReport => "ExceptionReport"

def ofLabel? (label : String) : Option TemplateName :=
  all.find? (·.label = label)

end TemplateName

namespace Builtin

-- A document of a grid coverage.
def gridCoverage : List Piece :=
  [.literal "<?xml version=\"1.0\" encoding=\"UTF-8\"?>\n", .literal "<gmlcov:",
   .hole "coverageType", .literal " xmlns:gml=\"http://www.opengis.net/gml/3.2\"",
   .literal " xmlns:gmlcov=\"http://www.opengis.net/gmlcov/1.0\"",
   .literal " xmlns:swe=\"http://www.opengis.net/swe/2.0\"",
   .literal " xmlns:ows=\"http://www.opengis.net/ows/2.0\"", .literal " gml:id=\"",
   .hole "coverageId", .literal "\">\n", .hole "descriptions", .literal "  <gml:boundedBy>\n",
   .literal "    <gml:Envelope srsName=\"", .hole "srsName", .literal "\" axisLabels=\"",
   .hole "axisLabels", .literal "\" uomLabels=\"", .hole "uomLabels",
   .literal "\" srsDimension=\"", .hole "gridDimension", .literal "\">\n",
   .literal "      <gml:lowerCorner>", .hole "lowerCorner", .literal "</gml:lowerCorner>\n",
   .literal "      <gml:upperCorner>", .hole "upperCorner", .literal "</gml:upperCorner>\n",
   .literal "    </gml:Envelope>\n", .literal "  </gml:boundedBy>\n",
   .literal "  <gml:domainSet>\n", .literal "    <gml:", .hole "gridType",
   .literal " dimension=\"", .hole "gridDimension", .literal "\"", .literal " gml:id=\"",
   .hole "gridId", .literal "\">\n", .literal "      <gml:limits>\n",
   .literal "        <gml:GridEnvelope>\n", .literal "          <gml:low>", .hole "low",
   .literal "</gml:low>\n", .literal "          <gml:high>", .hole "high",
   .literal "</gml:high>\n", .literal "        </gml:GridEnvelope>\n",
   .literal "      </gml:limits>\n", .literal "      <gml:axisLabels>", .hole "axisLabels",
   .literal "</gml:axisLabels>\n", .hole "additions", .literal "\n", .literal "    </gml:",
   .hole "gridType", .literal ">\n", .literal "  </gml:domainSet>\n",
   .literal "  <gml:rangeSet>\n", .literal "    ", .hole "coverageData", .literal "\n",
   .literal "  </gml:rangeSet>\n", .literal "  <gmlcov:rangeType>\n",
   .literal "    <swe:DataRecord>\n", .hole "rangeFields", .literal "    </swe:DataRecord>\n",
   .literal "  </gmlcov:rangeType>\n", .hole "metadata", .literal "</gmlcov:",
   .hole "coverageType", .literal ">\n"]

-- A document of a multipoint coverage.
def multiPointCoverage : List Piece :=
  [.literal "<?xml version=\"1.0\" encoding=\"UTF-8\"?>\n", .literal "<gmlcov:",
   .hole "coverageSubtype", .literal " xmlns:gml=\"http://www.opengis.net/gml/3.2\"",
   .literal " xmlns:gmlcov=\"http://www.opengis.net/gmlcov/1.0\"",
   .literal " xmlns:swe=\"http://www.opengis.net/swe/2.0\"",
   .literal " xmlns:ows=\"http://www.opengis.net/ows/2.0\"", .literal " gml:id=\"",
   .hole "coverageId", .literal "\">\n", .hole "descriptions", .literal "  <gml:boundedBy>\n",
   .literal "    <gml:Envelope srsName=\"", .hole "srsName", .literal "\" axisLabels=\"",
   .hole "axisLabels", .literal "\" uomLabels=\"", .hole "uomLabels",
   .literal "\" srsDimension=\"", .hole "gridDimension", .literal "\">\n",
   .literal "      <gml:lowerCorner>", .hole "low", .literal "</gml:lowerCorner>\n",
   .literal "      <gml:upperCorner>", .hole "high", .literal "</gml:upperCorner>\n",
   .literal "    </gml:Envelope>\n", .literal "  </gml:boundedBy>\n",
   .literal "  <gml:domainSet>\n", .literal "    <gml:MultiPoint", .literal " gml:id=\"",
   .hole "mpId", .literal "\"", .hole "srsgroup", .literal ">\n",
   .literal "      <gml:pointMembers>\n", .hole "pointMembers",
   .literal "      </gml:pointMembers>\n", .literal "    </gml:MultiPoint>\n",
   .literal "  </gml:domainSet>\n", .literal "  <gmlcov:rangeType>\n",
   .literal "    <swe:DataRecord>\n", .hole "rangeFields", .literal "    </swe:DataRecord>\n",
   .literal "  </gmlcov:rangeType>\n", .hole "metadata", .literal "</gmlcov:",
   .hole "coverageSubtype", .literal ">\n"]

-- The description of one field.
def rangeField : List Piece :=
  [.literal "      <swe:field name=\"", .hole "fieldName", .literal "\">\n",
   .literal "        <swe:Quantity definition=\"", .hole "datatype", .literal "\">\n",
   .literal "          <swe:label>", .hole "componentName", .literal "</swe:label>\n",
   .literal "          <swe:description>", .hole "fieldDescr", .literal "</swe:description>\n",
   .literal "          <swe:nilValues>\n", .literal "            <swe:NilValues>\n",
   .hole "nilValues", .literal "            </swe:NilValues>\n",
   .literal "          </swe:nilValues>\n", .literal "          <swe:uom code=\"", .hole "code",
   .literal "\"/>\n", .literal "          <swe:constraint>\n",
   .literal "            <swe:AllowedValues>\n", .literal "              <swe:interval>",
   .hole "allowedValues", .literal "</swe:interval>\n",
   .literal "            </swe:AllowedValues>\n", .literal "          </swe:constraint>\n",
   .literal "        </swe:Quantity>\n", .literal "      </swe:field>\n"]

-- The origin of a rectified grid.
def rectifiedGridOrigin : List Piece :=
  [.literal "      <gml:origin>\n", .literal "        <gml:Point", .literal " gml:id=\"",
   .hole "pointId", .literal "\" srsName=\"", .hole "srsName", .literal "\">\n",
   .literal "          <gml:pos>", .hole "originPos", .literal "</gml:pos>\n",
   .literal "        </gml:Point>\n", .literal "      </gml:origin>"]

-- One offset vector of a rectified grid.
def offsetVector : List Piece :=
  [.literal "      <gml:offsetVector srsName=\"", .hole "srsName", .literal "\" uomLabels=\"",
   .hole "uomLabels", .literal "\">", .hole "offsets", .literal "</gml:offsetVector>"]

-- A report of an error.
def exceptionReport : List Piece :=
  [.literal "<?xml version=\"1.0\" encoding=\"UTF-8\"?>\n", .literal "<ows:ExceptionReport",
   .literal " xmlns:ows=\"http://www.opengis.net/ows/2.0\"",
   .literal " version=\"2.0.0\" xml:lang=\"en\">\n", .literal "  <ows:Exception exceptionCode=\"",
   .hole "exceptionCode", .literal "\"", .hole "locator", .literal ">\n",
   .literal "    <ows:ExceptionText>", .hole "exceptionText", .literal "</ows:ExceptionText>\n",
   .literal "  </ows:Exception>\n", .literal "</ows:ExceptionReport>\n"]

end Builtin

def builtin : TemplateName → List Piece
  | .gridCoverage => Builtin.gridCoverage
  | .multiPointCoverage => Builtin.multiPointCoverage
  | .rangeField => Builtin.rangeField
  | .rectifiedGridOrigin => Builtin.rectifiedGridOrigin
  | .offsetVector => Builtin.offsetVector
  | .exceptionReport => Builtin.exceptionReport

-- Texts that stand in for built-in templates; of several for one name the first counts.
structure Templates where
  overrides : List (TemplateName × String) := []

namespace Templates

def withOverride (t : Templates) (name : TemplateName) (text : String) : Templates :=
  { overrides := (name, text) :: t.overrides }

def text (t : Templates) (name : TemplateName) : String :=
  (t.overrides.lookup name).getD (templateText (builtin name))

-- A blank template is of no use.
def render (t : Templates) (name : TemplateName) (values : List (String × String)) :
    Result String :=
  if Text.trim (t.text name) = "" then
    .error (.template ("template " ++ name.label ++ " is empty"))
  else .ok (substitute (t.text name) values)

def fileName (name : TemplateName) : String :=
  name.label ++ ".xml"

-- Take the text of a template from its file in a directory, if there is one.
def loadOverride (dir : String) (t : Templates) (file : TemplateName × FileEntry) :
    Result Templates :=
  if file.2.isMissing then .ok t
  else
    match file.2.read with
    | .ok content => .ok (t.withOverride file.1 content)
    | .error reason =>
      .error (.template ("cannot read " ++ joinPath dir (fileName file.1) ++ ": " ++ reason))

-- Take templates from the files of a directory.
def loadOverrides {m : Type → Type} [Monad m] (t : Templates) (fs : FileSystem m) (dir : String) :
    m (Result Templates) := do
  let files ← TemplateName.all.mapM fun name => do
    return (name, ← fs (joinPath dir (fileName name)))
  return files.foldlM (loadOverride dir) t

end Templates

end Datacube.Response

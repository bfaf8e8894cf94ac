import Datacube.Markup.Entity
import Datacube.Settings
import Datacube.Store

namespace Datacube.Response

open Markup (escape escapeText)

structure CoverageSummary where
  id : String
  subtype : String
deriving DecidableEq, Repr

-- What a service says about itself.
structure Capabilities where
  title : String := "WCPS"
  abstract : String := "Web Coverage Processing Service"
  serviceUrl : String
  formats : List String := ["application/gml+xml", "text/csv", "image/tiff"]
  coverages : List CoverageSummary
deriving DecidableEq, Repr

namespace Capabilities

-- Summaries of the coverages that can be read.
def summaries (store : Store) (ids : List String) : List CoverageSummary :=
  ids.filterMap fun id =>
    match store.read id with
    | .ok c => some ⟨c.name, c.kind.label⟩
    | .error _ => none

def ofIds (store : Store) (ids : List String) (settings : ResponseSettings) : Capabilities :=
  { serviceUrl := settings.serviceUrl, coverages := summaries store ids }

def ofStore (store : Store) (settings : ResponseSettings) : Capabilities :=
  ofIds store store.ids settings

def operations : List String :=
  ["GetCapabilities", "DescribeCoverage", "GetCoverage", "ProcessCoverages"]

private def header : String :=
  "<?xml version=\"1.0\" encoding=\"UTF-8\"?>\n" ++
  "<wcs:Capabilities xmlns:wcs=\"http://www.opengis.net/wcs/2.0\"\n" ++
  "    xmlns:ows=\"http://www.opengis.net/ows/2.0\"\n" ++
  "    xmlns:xlink=\"http://www.w3.org/1999/xlink\"\n" ++
  "    version=\"2.0.1\">\n"

def identification (c : Capabilities) : String :=
  "  <ows:ServiceIdentification>\n" ++
  "    <ows:Title>" ++ escapeText c.title ++ "</ows:Title>\n" ++
  "    <ows:Abstract>" ++ escapeText c.abstract ++ "</ows:Abstract>\n" ++
  "    <ows:ServiceType>OGC WCS</ows:ServiceType>\n" ++
  "    <ows:ServiceTypeVersion>2.0.1</ows:ServiceTypeVersion>\n" ++
  "  </ows:ServiceIdentification>\n"

def operationText (url operation : String) : String :=
  "    <ows:Operation name=\"" ++ operation ++ "\">\n" ++
  "      <ows:DCP><ows:HTTP><ows:Get xlink:href=\"" ++ escape url ++
    "?\"/><ows:Post xlink:href=\"" ++ escape url ++ "\"/></ows:HTTP></ows:DCP>\n" ++
  "    </ows:Operation>\n"

def formatText (format : String) : String :=
  "    <wcs:formatSupported>" ++ escapeText format ++ "</wcs:formatSupported>\n"

def summaryText (s : CoverageSummary) : String :=
  "    <wcs:CoverageSummary>\n" ++
  "      <wcs:CoverageId>" ++ escapeText s.id ++ "</wcs:CoverageId>\n" ++
  "      <wcs:CoverageSubtype>" ++ escapeText s.subtype ++ "</wcs:CoverageSubtype>\n" ++
  "    </wcs:CoverageSummary>\n"

def text (c : Capabilities) : String :=
  header ++ identification c ++
  "  <ows:OperationsMetadata>\n" ++
  String.join (operations.map (operationText c.serviceUrl)) ++
  "  </ows:OperationsMetadata>\n" ++
  "  <wcs:ServiceMetadata>\n" ++ String.join (c.formats.map formatText) ++
  "  </wcs:ServiceMetadata>\n" ++
  "  <wcs:Contents>\n" ++ String.join (c.coverages.map summaryText) ++
  "  </wcs:Contents>\n" ++
  "</wcs:Capabilities>\n"

end Capabilities

end Datacube.Response

import Datacube.Environment.Basic
import Datacube.Number.Integer
import Datacube.Text.Blank
import Datacube.Text.Pieces
import Datacube.Text.Lower

namespace Datacube

-- How deep expressions may nest, and the format of results that name none.
structure CompilerSettings where
  maxDepth : Nat := 256
  defaultFormat : String := "csv"
deriving DecidableEq, Repr

namespace CompilerSettings

-- A depth that is not a number and a format that is blank are passed over.
def ofEnvironment (env : Environment) : CompilerSettings :=
  let defaults : CompilerSettings := {}
  let maxDepth := ((env.value? "WCPS_MAX_EXPRESSION_DEPTH").bind Number.parseUInt64).getD
    defaults.maxDepth
  let format := ((env.value? "WCPS_DEFAULT_FORMAT").map Text.trim).filter (· ≠ "")
  { maxDepth := maxDepth
    defaultFormat := (format.map Text.lower).getD defaults.defaultFormat }

def check (s : CompilerSettings) : Except String Unit :=
  if s.maxDepth = 0 then .error "max_expression_depth must be > 0"
  else if s.defaultFormat = "" then .error "default_format must not be empty"
  else .ok ()

end CompilerSettings

-- What responses say about types and the service.
structure ResponseSettings where
  multipointSchema : String := "ps_multipoint"
  datatypeUrn : String := "urn:ogc:def:dataType:OGC:1.1:"
  serviceUrl : String := "http://localhost:8080/wcs"
deriving DecidableEq, Repr

namespace ResponseSettings

def dropSlashes (url : String) : String :=
  String.ofList (url.toList.reverse.dropWhile (· = '/')).reverse

def ofEnvironment (env : Environment) : ResponseSettings :=
  let defaults : ResponseSettings := {}
  { multipointSchema := (env.value? "WCS_MULTIPOINT_SCHEMA").getD defaults.multipointSchema
    datatypeUrn := (env.value? "WCS_DATATYPE_URN_PREFIX").getD defaults.datatypeUrn
    serviceUrl := ((env.value? "WCS_SERVICE_URL").map dropSlashes).getD defaults.serviceUrl }

def beginsWith (start s : String) : Bool :=
  (Text.afterStart start.toList s.toList).isSome

def check (s : ResponseSettings) : Except String Unit :=
  if Text.trim s.multipointSchema = "" then .error "multipoint_schema must not be empty"
  else if !beginsWith "http://" s.serviceUrl && !beginsWith "https://" s.serviceUrl then
    .error ("service_url must be an http(s) URL, got '" ++ s.serviceUrl ++ "'")
  else .ok ()

end ResponseSettings

end Datacube

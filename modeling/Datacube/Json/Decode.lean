import Datacube.Json.Reader
import Datacube.Settings
import Datacube.Store

-- Definitions read from structured values. Members of other names are passed over; a member of the
-- wrong form makes the whole definition unreadable.
namespace Datacube.Json

-- In a catalog every word counts as a text where a text is wanted.
def text? (d : Dialect) : Json → Option String
  | .string text => some text
  | .number text => if d = .catalog then some text else none
  | .bool value => if d = .catalog then some (if value then "true" else "false") else none
  | .null => if d = .catalog then some "null" else none
  | _ => none

-- The member of a known name, if there is one. A catalog may not give it twice.
def fieldOf (d : Dialect) (members : List (String × Json)) (name : String) :
    Option (Option Json) :=
  match members.filter (·.1 = name) with
  | [] => some none
  | [(_, value)] => some (some value)
  | several => if d = .catalog then none else some (several.getLast?.map (·.2))

def required {α : Type} (d : Dialect) (members : List (String × Json)) (name : String)
    (read : Json → Option α) : Option α := do
  match ← fieldOf d members name with
  | some value => read value
  | none => none

def withDefault {α : Type} (d : Dialect) (members : List (String × Json)) (name : String)
    (default : α) (read : Json → Option α) : Option α := do
  match ← fieldOf d members name with
  | some value => read value
  | none => some default

-- A value that may be missing or null.
def nullable {α : Type} (d : Dialect) (members : List (String × Json)) (name : String)
    (read : Json → Option α) : Option (Option α) := do
  match ← fieldOf d members name with
  | some .null => some none
  | some value => (read value).map some
  | none => some none

def listOf {α : Type} (read : Json → Option α) : Json → Option (List α)
  | .array items => items.mapM read
  | _ => none

def texts? (d : Dialect) : Json → Option (List String) :=
  listOf (text? d)

def floats? : Json → Option (List Float) :=
  listOf float?

def textPair? (d : Dialect) : Json → Option (String × String)
  | .array [a, b] => do return (← text? d a, ← text? d b)
  | _ => none

def members? : Json → Option (List (String × Json))
  | .object members => some members
  | _ => none

def axisDef? (d : Dialect) (v : Json) : Option AxisDef := do
  let m ← members? v
  return {
    name := ← required d m "name" (text? d)
    kind := ← required d m "type" (text? d)
    numLo := ← nullable d m "num_lo" float?
    numHi := ← nullable d m "num_hi" float?
    strLo := ← nullable d m "str_lo" (text? d)
    strHi := ← nullable d m "str_hi" (text? d)
    crsSet := ← withDefault d m "crs_set" [] (texts? d)
    uom := ← nullable d m "uom" (text? d) }

-- A whole number of 64 bits. Zero with a minus is not whole, except in a catalog.
def whole? (d : Dialect) (v : Json) : Option Int :=
  match v with
  | .number "-0" => if d = .catalog then some 0 else none
  | v => v.int64?

def cellBounds? (d : Dialect) (v : Json) : Option CellBounds := do
  let m ← members? v
  return { lo := ← nullable d m "lo" (whole? d), hi := ← nullable d m "hi" (whole? d) }

def rangeField? (d : Dialect) (v : Json) : Option RangeField := do
  let m ← members? v
  return {
    name := ← required d m "name" (text? d)
    datatype := ← required d m "datatype" (text? d)
    nilValues := ← withDefault d m "nil_values" [] (texts? d)
    description := ← withDefault d m "description" "" (text? d)
    uomCode := ← withDefault d m "uom_code" "10^0" (text? d)
    allowedValues := ← nullable d m "allowed_values" (textPair? d) }

def boundingBox? (d : Dialect) (v : Json) : Option BoundingBox := do
  let m ← members? v
  return {
    crs := ← required d m "crs_name" (text? d)
    lower := ← required d m "lower_corner" floats?
    upper := ← required d m "upper_corner" floats? }

def coverageDef? (d : Dialect) (v : Json) : Option CoverageDef := do
  let m ← members? v
  let description : Description := {
    rangeFields := ← withDefault d m "range_fields" [] (listOf (rangeField? d))
    bbox := ← nullable d m "bbox" (boundingBox? d)
    title := ← withDefault d m "title" "" (text? d)
    abstract := ← withDefault d m "abstract" "" (text? d)
    keywords := ← withDefault d m "keywords" [] (texts? d)
    metadata := ← nullable d m "metadata" (text? d)
    nullSet := ← withDefault d m "null_set" [] (texts? d)
    interpolationDefault := ← nullable d m "interpolation_default" (text? d)
    offsetVectors := ← nullable d m "offset_vectors" (listOf floats?) }
  return {
    name := ← required d m "coverage_name" (text? d)
    kind := ← required d m "coverage_type" (text? d)
    domain := ← required d m "domain" (listOf (axisDef? d))
    cells := ← required d m "cell_domain" (listOf (cellBounds? d))
    description := description }

def point? (d : Dialect) (v : Json) : Option PointRecord := do
  let m ← members? v
  return {
    position := ← required d m "position" floats?
    values := ← required d m "values" (texts? d) }

def points? (d : Dialect) : Json → Option (List PointRecord) :=
  listOf (point? d)

-- A subset given by its kind and parts.
def subset? (v : Json) : Option Subset := do
  let m ← members? v
  let kind ← required .strict m "kind" string?
  let axis ← required .strict m "dimension" string?
  let crs ← nullable .strict m "crs" string?
  match kind with
  | "trim" =>
    let low ← required .strict m "low" string?
    let high ← required .strict m "high" string?
    return ⟨axis, crs, .trim low high⟩
  | "slice" =>
    let point ← required .strict m "point" string?
    return ⟨axis, crs, .slice point⟩
  | _ => none

def compilerSettings? (v : Json) : Option CompilerSettings := do
  let m ← members? v
  return {
    maxDepth := ← required .strict m "max_expression_depth" uint64?
    defaultFormat := ← required .strict m "default_format" string? }

def responseSettings? (v : Json) : Option ResponseSettings := do
  let m ← members? v
  return {
    multipointSchema := ← required .strict m "multipoint_schema" string?
    datatypeUrn := ← required .strict m "datatype_urn_prefix" string?
    serviceUrl := ← required .strict m "service_url" string? }

end Datacube.Json

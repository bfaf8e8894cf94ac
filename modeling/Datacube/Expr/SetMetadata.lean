import Datacube.Expr.Grammar

namespace Datacube.Expr

open Markup (Element)

-- The children that describe the change; any other child is the operand.
def metadataParameters : List String :=
  ["identifier", "null", "field", "interpolationMethod", "srsName", "crs"]

-- A method is its type, with the null resistance behind a colon if one is given.
def interpolationMethod (e : Element) : String :=
  let kind := (e.childText? "interpolationType").getD e.trimmedText
  match e.childText? "nullResistance" with
  | some resistance => kind ++ ":" ++ resistance
  | none => kind

def interpolationMethods (e : Element) : List String :=
  (e.childrenNamed "interpolationMethod").map interpolationMethod

def missingMethod (e : Element) : Error :=
  .invalidParameter e.name "missing <interpolationMethod> element"

-- The change an element describes; none if it is not a metadata operation.
def parseChange? (e : Element) : Option (Result MetadataChange) :=
  match e.name with
  | "setIdentifier" => some do
    let id ← e.requiredText "identifier"
    return .identifier id
  | "setNullSet" => some (.ok (.nullSet ((e.childrenNamed "null").map (·.trimmedText))))
  | "setInterpolationDefault" => some do
    let field ← e.requiredText "field"
    match interpolationMethods e with
    | method :: _ => return .interpolationDefault field method
    | [] => throw (missingMethod e)
  | "setInterpolationSet" => some do
    match interpolationMethods e with
    | [] => throw (missingMethod e)
    | methods =>
      let field ← e.requiredText "field"
      return .interpolationSet field methods
  | "setCrsSet" =>
    let names := e.children.filter fun c => c.name = "srsName" ∨ c.name = "crs"
    some (.ok (.crsSet (names.map (·.trimmedText))))
  | _ => none

def missingField (schema : Schema) (field : String) : Error :=
  .invalidParameter "field"
    ("coverage '" ++ schema.name ++ "' has no range field '" ++ field ++ "'")

def requireField (schema : Schema) (field : String) : Result Unit :=
  if schema.hasField field then .ok () else .error (missingField schema field)

def MetadataChange.apply (schema : Schema) : MetadataChange → Result Schema
  | .identifier id => .ok { schema with name := id }
  | .nullSet values => .ok { schema with nullSet := values }
  | .interpolationDefault field method => do
    requireField schema field
    return { schema with interpolationDefault := some method }
  | .interpolationSet field methods => do
    requireField schema field
    return { schema with interpolationSet := methods }
  | .crsSet names =>
    let crsSet := Crs.normalize names
    .ok { schema with
      axes := schema.axes.map fun a => { a with domain := a.domain.withCrsSet crsSet } }

def trySetMetadata (g : Grammar) (s : Scope) (e : Element) : Result (Attempt CoverageExpr) :=
  match parseChange? e with
  | none => .ok (.declined e "set metadata operation")
  | some change => do
    let change ← change
    let operand ← g.parseOperandBeside s e metadataParameters
    let schema ← change.apply operand.schema
    return .matched (.setMetadata change operand schema)

end Datacube.Expr

import Datacube.Expr.Pair
import Datacube.Expr.SetMetadata

namespace Datacube.Expr

open Markup (Element)

private def missingChild (tag child : String) : Error :=
  .invalidParameter tag ("missing <" ++ child ++ "> element")

def nonempty? (text : Option String) : Option String :=
  text.filter (· ≠ "")

def parseBit (g : Grammar) (s : Scope) (e : Element) : Result CoverageExpr := do
  let operand ← g.parseOperandBeside s e ["bitIndex"]
  match e.child? "bitIndex" with
  | none => throw (missingChild e.name "bitIndex")
  | some index =>
    let index ← integerParameter e index
    return .bit operand index (operand.schema.withDatatype "boolean")

def parseCast (g : Grammar) (s : Scope) (e : Element) : Result CoverageExpr := do
  let operand ← g.parseOperandBeside s e ["type"]
  match nonempty? (e.childText? "type") with
  | none => throw (missingChild e.name "type")
  | some target => return .cast operand target (operand.schema.withDatatype target)

-- The name of the selected field is that of a child, or the text of the element itself.
def selectedField? (e : Element) : Option String :=
  nonempty? ((e.child? "field").map fun f => (f.childText? "name").getD f.trimmedText)

def parseFieldSelect (g : Grammar) (s : Scope) (e : Element) : Result CoverageExpr := do
  let operand ← g.parseOperandBeside s e ["field"]
  match selectedField? e with
  | none => throw (missingChild e.name "field")
  | some field =>
    requireField operand.schema field
    let fields := operand.schema.rangeFields.filter (·.name = field)
    return .fieldSelect operand field { operand.schema with rangeFields := fields }

def parseComponent (g : Grammar) (s : Scope) (e : Element) : Result (String × CoverageExpr) :=
  match nonempty? (e.childText? "field") with
  | none => .error (missingChild "component" "field")
  | some field => do
    let component ← g.parseOperandBeside s e ["field"]
    return (field, component)

def Components.ofList? : List (String × CoverageExpr) → Option Components
  | [] => none
  | (field, component) :: rest =>
    match Components.ofList? rest with
    | none => some (.one field component)
    | some others => some (.more field component others)

-- A component gives the type of its first field to the field it makes.
def componentField (field : String) (component : CoverageExpr) : RangeField :=
  { name := field
    datatype := match component.schema.rangeFields with
      | f :: _ => f.datatype
      | [] => "" }

def parseRangeConstructor (g : Grammar) (s : Scope) (e : Element) : Result CoverageExpr := do
  let parsed ← (e.childrenNamed "component").mapM (parseComponent g s)
  match Components.ofList? parsed with
  | none =>
    throw (.invalidParameter "rangeConstructor" "range constructor needs at least one component")
  | some components =>
    let first := components.head.schema
    components.toList.forM fun (_, component) =>
      first.ensureCompatible component.schema "range constructor"
    let fields := components.toList.map fun (field, component) => componentField field component
    return .rangeConstructor components { first with rangeFields := fields }

def parseBinary (g : Grammar) (s : Scope) (op : BinaryOp) (e : Element) : Result CoverageExpr := do
  let (left, right) ← twoChildren e
  let pair ← Pair.parse g s left right
  let schema := if op.isBoolean then pair.schema.withDatatype "boolean" else pair.schema
  return .binary op pair.first pair.second schema

-- Operations that work cell by cell.
def tryInduced (g : Grammar) (s : Scope) (e : Element) : Result (Attempt CoverageExpr) :=
  match UnaryOp.ofTag? e.name, BinaryOp.ofTag? e.name with
  | some op, _ => do
    let operand ← g.parseCoverage s (← e.onlyChild)
    return .matched (.unary op operand)
  | none, some op => do return .matched (← parseBinary g s op e)
  | none, none =>
    match e.name with
    | "bit" => do return .matched (← parseBit g s e)
    | "cast" => do return .matched (← parseCast g s e)
    | "fieldSelect" => do return .matched (← parseFieldSelect g s e)
    | "rangeConstructor" => do return .matched (← parseRangeConstructor g s e)
    | _ => .ok (.declined e "induced operation")

end Datacube.Expr

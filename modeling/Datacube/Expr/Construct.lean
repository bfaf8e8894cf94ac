import Datacube.Expr.Grammar

namespace Datacube.Expr

open Markup (Element)

private def missingPart (tag what : String) : Error :=
  .invalidParameter tag ("missing " ++ what)

def AxisIterator.parse (e : Element) : Result AxisIterator := do
  let var ← e.requiredText "iteratorVar"
  let axis ← e.requiredText "axis"
  match e.child? "lowerBound", e.child? "upperBound" with
  | none, _ => throw (missingPart "axisIterator" "lowerBound")
  | _, none => throw (missingPart "axisIterator" "upperBound")
  | some lower, some upper =>
    let lo ← integerParameter e lower
    let hi ← integerParameter e upper
    if hi < lo then
      throw (.invalidParameter axis
        ("iterator bounds [" ++ Number.intText lo ++ ":" ++ Number.intText hi ++ "] are inverted"))
    return ⟨var, axis, lo, hi⟩

-- The axis that an iterator runs over. Its coordinates are its cells.
def AxisIterator.axisView (i : AxisIterator) : Result AxisView := do
  let kind := (AxisKind.ofLabel? i.axis).getD .other
  let domain ← Axis.ofDef {
    name := i.axis
    kind := kind.label
    numLo := some (Float.ofInt i.lo)
    numHi := some (Float.ofInt i.hi) }
  let cells ← CellExtent.make i.lo i.hi
  let domain ← domain.setResolution cells.count
  return ⟨domain, cells, cells⟩

def parseIterators (e : Element) : Result (List AxisIterator) := do
  match ← (e.childrenNamed "axisIterator").mapM AxisIterator.parse with
  | [] => throw (missingPart e.name "axisIterator")
  | iterators => return iterators

-- The schema of a coverage made from nothing over the cells of its iterators.
def constructedSchema (name : String) (iterators : List AxisIterator) (fields : List RangeField) :
    Result Schema := do
  let axes ← iterators.mapM AxisIterator.axisView
  return { name := name, kind := .grid, axes := axes, rangeFields := fields }

def valueField : RangeField :=
  { name := "value", datatype := "double" }

-- A coverage whose cells are computed from the iterators' variables.
def parseConstruct (g : Grammar) (s : Scope) (e : Element) : Result CoverageExpr := do
  let name := (e.childText? "name").getD "construct"
  let iterators ← parseIterators e
  match e.childBeside? ["name", "axisIterator"] with
  | none => throw (missingPart "construct" "value expression")
  | some body =>
    let body ← g.parseOperand (s.withVariables (iterators.map (·.var))) body
    let fields := match body.schema? with
      | some schema => schema.rangeFields
      | none => [valueField]
    let schema ← constructedSchema name iterators fields
    return .construct iterators body schema

-- A coverage whose cells are listed.
def parseConstant (e : Element) : Result CoverageExpr := do
  let name := (e.childText? "name").getD "const"
  let iterators ← parseIterators e
  let values := (e.childrenNamed "value").map (·.trimmedText)
  let schema ← constructedSchema name iterators [valueField]
  if (values.length : Int) ≠ schema.cellCount then
    throw (.invalidParameter "const"
      (Number.natText values.length ++ " values given for a domain of " ++
        Number.intText schema.cellCount ++ " cells"))
  return .constant iterators values schema

end Datacube.Expr

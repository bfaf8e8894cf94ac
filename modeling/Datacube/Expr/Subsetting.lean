import Datacube.Expr.Grammar

namespace Datacube.Expr

open Markup (Element)

-- The children that describe subsets; any other child is the operand.
def subsetParameters : List String :=
  ["axis", "srsName", "crs", "lowerBound", "upperBound", "slicingPosition"]

-- An axis with the parameters that follow it. A later parameter of the same kind wins.
structure AxisGroup where
  axis : String
  crs : Option String := none
  low : Option String := none
  high : Option String := none
deriving DecidableEq, Repr

def AxisGroup.addParameter (g : AxisGroup) (e : Element) : AxisGroup :=
  match e.name with
  | "srsName" | "crs" => { g with crs := some e.trimmedText }
  | "lowerBound" => { g with low := some (boundText e) }
  | "upperBound" => { g with high := some (boundText e) }
  | "slicingPosition" => { g with low := some (boundText e), high := some (boundText e) }
  | _ => g

-- Collect the groups of an element's children; the current group is the last one.
def axisGroups (owner : String) : Option AxisGroup → List Element → Result (List AxisGroup)
  | current, [] => .ok current.toList
  | current, e :: rest =>
    if e.name = "axis" then do
      let more ← axisGroups owner (some { axis := e.trimmedText }) rest
      return current.toList ++ more
    else if e.name ∈ subsetParameters then
      match current with
      | some g => axisGroups owner (some (g.addParameter e)) rest
      | none => .error (.invalidParameter owner ("<" ++ e.name ++ "> before any <axis>"))
    else axisGroups owner current rest

def AxisGroup.require (g : AxisGroup) (what : String) : Option String → Result String
  | some text => .ok text
  | none => .error (.invalidParameter g.axis ("missing " ++ what ++ " for axis"))

def AxisGroup.toSubset (g : AxisGroup) (op : SubsetOp) : Result Subset := do
  let subset ← match op with
    | .slice => do
      let point ← g.require "slicingPosition" g.low
      pure (Subset.slice g.axis point)
    | .trim | .extend => do
      let low ← g.require "lowerBound" g.low
      let high ← g.require "upperBound" g.high
      pure (Subset.trim g.axis low high)
  match g.crs with
  | some crs => return if crs = "" then subset else subset.withCrs crs
  | none => return subset

-- The subsets that an element describes, one for each of its axis children.
def axisSubsets (e : Element) (op : SubsetOp) : Result (List Subset) := do
  let groups ← axisGroups e.name none e.children
  groups.mapM (·.toSubset op)

private def intervalText (lo hi : Int) : String :=
  "[" ++ Number.intText lo ++ ":" ++ Number.intText hi ++ "]"

-- One subset of an operand, unless its axis has one already. Only an extension may leave the cells
-- the axis has.
def resolveSpec (op : SubsetOp) (operand : Schema) (earlier : List SubsetSpec) (subset : Subset) :
    Result SubsetSpec := do
  let (i, axis) ← operand.requireAxis subset.axis
  if earlier.any (·.axis = i) then
    throw (.invalidAxis subset.axis "axis is subsetted twice")
  let (lo, hi) ← axis.domain.resolveOn subset axis.native axis.cells
  if hi < lo then
    throw (.invalidParameter subset.axis
      ("lower bound " ++ Number.intText lo ++ " is above upper bound " ++ Number.intText hi))
  if op ≠ .extend ∧ ¬(axis.cells.lo ≤ lo ∧ hi ≤ axis.cells.hi) then
    throw (.invalidParameter subset.axis
      (intervalText lo hi ++ " is outside the axis extent " ++
        intervalText axis.cells.lo axis.cells.hi))
  return ⟨i, subset, lo, hi⟩

def resolveSpecs (op : SubsetOp) (operand : Schema) :
    List SubsetSpec → List Subset → Result (List SubsetSpec)
  | earlier, [] => .ok earlier
  | earlier, subset :: rest => do
    let spec ← resolveSpec op operand earlier subset
    resolveSpecs op operand (earlier ++ [spec]) rest

-- What a subset operation leaves of the axis at a place: a slice takes its axes away.
def subsetAxis (op : SubsetOp) (specs : List SubsetSpec) (axis : AxisView) (place : Nat) :
    Option AxisView :=
  match specs.find? (·.axis = place) with
  | some spec =>
    if op = .slice then none
    else some { axis with cells := axis.cells.applyResolved spec.subset spec.lo spec.hi }
  | none => some axis

def subsetSchema (op : SubsetOp) (operand : Schema) (specs : List SubsetSpec) : Schema :=
  { operand with
    axes := operand.axes.zipIdx.filterMap fun (axis, i) => subsetAxis op specs axis i }

def trySubset (g : Grammar) (s : Scope) (e : Element) : Result (Attempt CoverageExpr) :=
  match SubsetOp.ofTag? e.name with
  | none => .ok (.declined e "subset operation")
  | some op => do
    let operand ← g.parseOperandBeside s e subsetParameters
    let subsets ← axisSubsets e op
    let specs ← resolveSpecs op operand.schema [] subsets
    if specs.isEmpty then
      throw (.invalidParameter e.name "subset names no axis")
    return .matched (.subset op operand specs (subsetSchema op operand.schema specs))

-- Resample one axis onto new cells, which then count from its lower bound.
def scaleAxis (schema : Schema) (subset : Subset) : Result Schema := do
  let (i, axis) ← schema.requireAxis subset.axis
  let (lo, hi) ← axis.domain.resolveOn subset axis.native axis.cells
  if hi < lo then
    throw (.invalidParameter subset.axis
      ("scale target " ++ intervalText lo hi ++ " is inverted"))
  let cells := axis.cells.applyResolved subset lo hi
  let domain ← if axis.domain.numeric.isSome then axis.domain.setResolution cells.count
    else pure axis.domain
  return { schema with axes := schema.axes.set i ⟨domain, cells, cells⟩ }

def parseScale (g : Grammar) (s : Scope) (e : Element) : Result CoverageExpr :=
  match e.childBeside? (subsetParameters ++ ["fieldInterpolation"]) with
  | none => .error (.invalidParameter "scale" "missing coverage operand")
  | some operand => do
    let operand ← g.parseCoverage s operand
    let subsets ← axisSubsets e .trim
    let schema ← subsets.foldlM scaleAxis operand.schema
    return .scale operand schema

end Datacube.Expr

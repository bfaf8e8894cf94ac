import Datacube.Expr.Operator
import Datacube.Rasql
import Datacube.Schema

namespace Datacube.Expr

-- A variable that runs over the cells from `lo` to `hi` of a new axis.
structure AxisIterator where
  var : String
  axis : String
  lo : Int
  hi : Int
deriving DecidableEq, Repr

def AxisIterator.interval (i : AxisIterator) : Rasql.Interval :=
  ⟨i.lo, i.hi⟩

-- A subset of the operand's axis at a place, with its bounds in cells.
structure SubsetSpec where
  axis : Nat
  subset : Subset
  lo : Int
  hi : Int
deriving DecidableEq, Repr

-- A change of what is said about a coverage, which leaves its cells alone.
inductive MetadataChange where
  | identifier (id : String)
  | nullSet (values : List String)
  | interpolationDefault (field method : String)
  | interpolationSet (field : String) (methods : List String)
  | crsSet (names : List String)
deriving DecidableEq, Repr

mutual

-- Expressions whose value is a coverage. A node carries its schema unless it is that of a child.
inductive CoverageExpr where
  | reference (iterator : String) (schema : Schema)
  | constant (iterators : List AxisIterator) (values : List String) (schema : Schema)
  | construct (iterators : List AxisIterator) (body : Operand) (schema : Schema)
  | scale (operand : CoverageExpr) (schema : Schema)
  | switch (branches : Branches)
  | setMetadata (change : MetadataChange) (operand : CoverageExpr) (schema : Schema)
  | unary (op : UnaryOp) (operand : CoverageExpr)
  | bit (operand : CoverageExpr) (index : Int) (schema : Schema)
  | cast (operand : CoverageExpr) (target : String) (schema : Schema)
  | fieldSelect (operand : CoverageExpr) (field : String) (schema : Schema)
  | rangeConstructor (components : Components) (schema : Schema)
  | binary (op : BinaryOp) (first second : Operand) (schema : Schema)
  | subset (op : SubsetOp) (operand : CoverageExpr) (specs : List SubsetSpec) (schema : Schema)

-- Expressions whose value is a single number, truth value or text.
inductive ScalarExpr where
  | numeric (text : String)
  | boolean (value : Bool)
  | string (text : String)
  | axisVariable (name : String)
  | unary (op : ScalarUnaryOp) (operand : ScalarExpr)
  | binary (op : ScalarBinaryOp) (left right : ScalarExpr)
  | condense (op : CondenseOp) (coverage : CoverageExpr)

inductive Operand where
  | coverage (expr : CoverageExpr)
  | scalar (expr : ScalarExpr)

-- Conditions with their results in order, then the result for all other cells.
inductive Branches where
  | default (result : CoverageExpr)
  | case (condition result : CoverageExpr) (rest : Branches)

-- Named components, at least one.
inductive Components where
  | one (field : String) (component : CoverageExpr)
  | more (field : String) (component : CoverageExpr) (rest : Components)

end

mutual

-- The schema of the coverage that an expression gives.
def CoverageExpr.schema : CoverageExpr → Schema
  | .reference _ schema => schema
  | .constant _ _ schema => schema
  | .construct _ _ schema => schema
  | .scale _ schema => schema
  | .switch branches => branches.schema
  | .setMetadata _ _ schema => schema
  | .unary _ operand => operand.schema
  | .bit _ _ schema => schema
  | .cast _ _ schema => schema
  | .fieldSelect _ _ schema => schema
  | .rangeConstructor _ schema => schema
  | .binary _ _ _ schema => schema
  | .subset _ _ _ schema => schema

-- That of the first condition, or of the only result.
def Branches.schema : Branches → Schema
  | .default result => result.schema
  | .case condition _ _ => condition.schema

end

def Operand.schema? : Operand → Option Schema
  | .coverage expr => some expr.schema
  | .scalar _ => none

def Branches.caseCount : Branches → Nat
  | .default _ => 0
  | .case _ _ rest => rest.caseCount + 1

-- All conditions and results in order.
def Branches.exprs : Branches → List CoverageExpr
  | .default result => [result]
  | .case condition result rest => condition :: result :: rest.exprs

def Components.toList : Components → List (String × CoverageExpr)
  | .one field component => [(field, component)]
  | .more field component rest => (field, component) :: rest.toList

def Components.head : Components → CoverageExpr
  | .one _ component => component
  | .more _ component _ => component

def schemaDomain (s : Schema) : List Rasql.Interval :=
  s.axes.map fun a => ⟨a.cells.lo, a.cells.hi⟩

-- How a subset operation writes the axis at a place: an axis it does not name is kept, and written
-- out if the operation needs all extents.
def subsetIndex (specs : List SubsetSpec) (slice : Bool) (place : Nat) : Rasql.Index :=
  match specs.find? (·.axis = place) with
  | some spec => if slice then .point spec.lo else .range ⟨spec.lo, spec.hi⟩
  | none => .all

def extendedInterval (specs : List SubsetSpec) (cells : CellExtent) (place : Nat) :
    Rasql.Interval :=
  match specs.find? (·.axis = place) with
  | some spec => ⟨spec.lo, spec.hi⟩
  | none => ⟨cells.lo, cells.hi⟩

mutual

-- The query that an expression is compiled to.
def CoverageExpr.term : CoverageExpr → Rasql.Term
  | .reference iterator _ => .iterator iterator
  | .constant iterators values _ => .array (iterators.map (·.interval)) values
  | .construct iterators body _ =>
    .generate (iterators.map fun i => (i.var, i.interval)) body.term
  | .scale operand schema => .scale operand.term (schemaDomain schema)
  | .switch branches => .switch branches.term
  | .setMetadata _ operand _ => operand.term
  | .unary op operand => .apply op.symbol operand.term
  | .bit operand index _ => .bit operand.term index
  | .cast operand target _ => .cast target operand.term
  | .fieldSelect operand field _ => .select operand.term field
  | .rangeConstructor components _ => .record components.term
  | .binary op first second _ => .operation op.symbol first.term second.term
  | .subset op operand specs _ =>
    match op with
    | .extend =>
      .extend operand.term
        (operand.schema.axes.zipIdx.map fun (axis, i) => extendedInterval specs axis.cells i)
    | .trim =>
      .subscript operand.term
        ((List.range operand.schema.dimension).map (subsetIndex specs false))
    | .slice =>
      .subscript operand.term
        ((List.range operand.schema.dimension).map (subsetIndex specs true))

def ScalarExpr.term : ScalarExpr → Rasql.Term
  | .numeric text => .constant text
  | .boolean value => .constant (if value then "true" else "false")
  | .string text => .quoted text
  | .axisVariable name => .axisVariable name
  | .unary op operand => .apply op.symbol operand.term
  | .binary op left right => .operation op.symbol left.term right.term
  | .condense op coverage => .condense op.function coverage.term

def Operand.term : Operand → Rasql.Term
  | .coverage expr => expr.term
  | .scalar expr => expr.term

def Branches.term : Branches → Rasql.Branches
  | .default result => .otherwise result.term
  | .case condition result rest => .when condition.term result.term rest.term

def Components.term : Components → Rasql.Components
  | .one _ component => .one component.term
  | .more _ component rest => .more component.term rest.term

end

def CoverageExpr.text (e : CoverageExpr) : String :=
  e.term.text

def ScalarExpr.text (e : ScalarExpr) : String :=
  e.term.text

def Operand.text (o : Operand) : String :=
  o.term.text

end Datacube.Expr

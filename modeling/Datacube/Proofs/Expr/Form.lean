import Datacube.Expr.Parse
import Datacube.Proofs.Expr.Tag
import Datacube.Proofs.Outcome

-- What one level of the grammar accepts, given what the levels below accept: an element has the
-- form of an expression if its children have the forms of the operands.
namespace Datacube.Expr

open Markup (Element)

-- The fields of a coverage whose cells are computed by an operand.
def Operand.fields (body : Operand) : List RangeField :=
  match body.schema? with
  | some schema => schema.rangeFields
  | none => [valueField]

section Forms

variable (C : Scope → Element → CoverageExpr → Prop) (S : Scope → Element → ScalarExpr → Prop)

inductive OperandForm (s : Scope) (e : Element) : Operand → Prop where
  | scalar {x : ScalarExpr} (hx : S s e x) : OperandForm s e (.scalar x)
  | coverage {x : CoverageExpr} (hx : C s e x) : OperandForm s e (.coverage x)

-- At least one of two operands is a coverage, and two coverages have the same cells.
inductive PairForm (s : Scope) (left right : Element) : Pair → Prop where
  | coverageScalar {x : CoverageExpr} {y : ScalarExpr} (hx : C s left x) (hy : S s right y) :
      PairForm s left right ⟨.coverage x, .scalar y, x.schema⟩
  | scalarCoverage {x : ScalarExpr} {y : CoverageExpr} (hx : S s left x) (hy : C s right y) :
      PairForm s left right ⟨.scalar x, .coverage y, y.schema⟩
  | coverages {x y : CoverageExpr} (hx : C s left x) (hy : C s right y)
      (hsame : x.schema.extents = y.schema.extents) :
      PairForm s left right ⟨.coverage x, .coverage y, x.schema⟩

-- The first child that is not a parameter is the operand.
def OperandBeside (s : Scope) (e : Element) (parameters : List String) (x : CoverageExpr) : Prop :=
  ∃ c, e.childBeside? parameters = some c ∧ C s c x

def OnlyOperand (s : Scope) (e : Element) (x : CoverageExpr) : Prop :=
  ∃ c, e.firstChild? = some c ∧ C s c x

def ComponentForm (s : Scope) (e : Element) (component : String × CoverageExpr) : Prop :=
  nonempty? (e.childText? "field") = some component.1 ∧ OperandBeside C s e ["field"] component.2

-- Cases with a condition and a result in either order, then a default with its result.
inductive BranchesForm (s : Scope) : List Element → Branches → Prop where
  | default {e part : Element} {x : CoverageExpr} (htag : e.name = "default")
      (hparts : e.children = [part]) (hpart : part.name = "result") (hx : OnlyOperand C s part x) :
      BranchesForm s [e] (.default x)
  | case {e condition result : Element} {x y : CoverageExpr} {rest : List Element}
      {branches : Branches} (htag : e.name = "case")
      (hparts : e.children = [condition, result] ∨ e.children = [result, condition])
      (hcondition : condition.name = "condition") (hresult : result.name = "result")
      (hx : OnlyOperand C s condition x) (hy : OnlyOperand C s result y)
      (hrest : BranchesForm s rest branches) :
      BranchesForm s (e :: rest) (.case x y branches)

inductive CoverageForm (s : Scope) (e : Element) : CoverageExpr → Prop where
  | reference {first : String} {rest : List String} {schema : Schema} (htag : e.name = "coverage")
      (hnames : s.iterators.lookup e.trimmedText = some (first :: rest))
      (hschema : readSchema s first = .ok schema)
      (hsame : checkSame s e.trimmedText schema rest = .ok ()) :
      CoverageForm s e (.reference e.trimmedText schema)
  | constant {iterators : List AxisIterator} {schema : Schema} (htag : e.name = "const")
      (hiterators : parseIterators e = .ok iterators)
      (hschema : constructedSchema ((e.childText? "name").getD "const") iterators [valueField] =
        .ok schema)
      (hcount : ((e.childrenNamed "value").length : Int) = schema.cellCount) :
      CoverageForm s e
        (.constant iterators ((e.childrenNamed "value").map (·.trimmedText)) schema)
  | construct {iterators : List AxisIterator} {c : Element} {body : Operand} {schema : Schema}
      (htag : e.name = "construct") (hiterators : parseIterators e = .ok iterators)
      (hchild : e.childBeside? ["name", "axisIterator"] = some c)
      (hbody : OperandForm C S (s.withVariables (iterators.map (·.var))) c body)
      (hschema : constructedSchema ((e.childText? "name").getD "construct") iterators body.fields =
        .ok schema) :
      CoverageForm s e (.construct iterators body schema)
  | scale {x : CoverageExpr} {subsets : List Subset} {schema : Schema} (htag : e.name = "scale")
      (hx : OperandBeside C s e (subsetParameters ++ ["fieldInterpolation"]) x)
      (hsubsets : axisSubsets e .trim = .ok subsets)
      (hschema : subsets.foldlM scaleAxis x.schema = .ok schema) :
      CoverageForm s e (.scale x schema)
  | switch {branches : Branches} (htag : e.name = "switch")
      (hbranches : BranchesForm C s e.children branches)
      (hsame : ∀ x ∈ branches.exprs, branches.schema.extents = x.schema.extents) :
      CoverageForm s e (.switch branches)
  | setMetadata {change : MetadataChange} {x : CoverageExpr} {schema : Schema}
      (hchange : parseChange? e = some (.ok change))
      (hx : OperandBeside C s e metadataParameters x)
      (hschema : change.apply x.schema = .ok schema) :
      CoverageForm s e (.setMetadata change x schema)
  | unary {op : UnaryOp} {x : CoverageExpr} (htag : e.name = op.tag)
      (hx : OnlyOperand C s e x) : CoverageForm s e (.unary op x)
  | bit {x : CoverageExpr} {c : Element} {index : Int} (htag : e.name = "bit")
      (hx : OperandBeside C s e ["bitIndex"] x) (hchild : e.child? "bitIndex" = some c)
      (hindex : integerParameter e c = .ok index) :
      CoverageForm s e (.bit x index (x.schema.withDatatype "boolean"))
  | cast {x : CoverageExpr} {target : String} (htag : e.name = "cast")
      (hx : OperandBeside C s e ["type"] x)
      (htarget : nonempty? (e.childText? "type") = some target) :
      CoverageForm s e (.cast x target (x.schema.withDatatype target))
  | fieldSelect {x : CoverageExpr} {field : String} (htag : e.name = "fieldSelect")
      (hx : OperandBeside C s e ["field"] x) (hfield : selectedField? e = some field)
      (hpresent : x.schema.hasField field = true) :
      CoverageForm s e (.fieldSelect x field
        { x.schema with rangeFields := x.schema.rangeFields.filter (·.name = field) })
  | rangeConstructor {components : Components} (htag : e.name = "rangeConstructor")
      (hcomponents : List.Forall₂ (ComponentForm C s) (e.childrenNamed "component")
        components.toList)
      (hsame : ∀ c ∈ components.toList, components.head.schema.extents = c.2.schema.extents) :
      CoverageForm s e (.rangeConstructor components
        { components.head.schema with
          rangeFields := components.toList.map fun c => componentField c.1 c.2 })
  | binary {op : BinaryOp} {left right : Element} {pair : Pair} (htag : e.name = op.tag)
      (hchildren : e.children = [left, right]) (hpair : PairForm C S s left right pair) :
      CoverageForm s e (.binary op pair.first pair.second
        (if op.isBoolean then pair.schema.withDatatype "boolean" else pair.schema))
  | subset {op : SubsetOp} {x : CoverageExpr} {subsets : List Subset} {specs : List SubsetSpec}
      (htag : e.name = op.tag) (hx : OperandBeside C s e subsetParameters x)
      (hsubsets : axisSubsets e op = .ok subsets)
      (hspecs : resolveSpecs op x.schema [] subsets = .ok specs) (hsome : specs ≠ []) :
      CoverageForm s e (.subset op x specs (subsetSchema op x.schema specs))

inductive ScalarForm (s : Scope) (e : Element) : ScalarExpr → Prop where
  | numeric {value : Float} (htag : e.name = "numericConstant")
      (hvalue : Number.parseFloat e.trimmedText = some value) :
      ScalarForm s e (.numeric e.trimmedText)
  | boolean {value : Bool} (htag : e.name = "booleanConstant")
      (hvalue : e.trimmedText = if value then "true" else "false") :
      ScalarForm s e (.boolean value)
  | string (htag : e.name = "stringConstant") : ScalarForm s e (.string e.text)
  | axisVariable (htag : e.name = "variableRef") (hscope : e.trimmedText ∈ s.axisVariables) :
      ScalarForm s e (.axisVariable e.trimmedText)
  | unary {op : ScalarUnaryOp} {c : Element} {x : ScalarExpr} (htag : e.name = op.tag)
      (hchild : e.firstChild? = some c) (hx : S s c x) : ScalarForm s e (.unary op x)
  | binary {op : ScalarBinaryOp} {left right : Element} {x y : ScalarExpr} (htag : e.name = op.tag)
      (hchildren : e.children = [left, right]) (hx : S s left x) (hy : S s right y) :
      ScalarForm s e (.binary op x y)
  | condense {op : CondenseOp} {x : CoverageExpr} (htag : e.name = op.tag)
      (hx : OnlyOperand C s e x) : ScalarForm s e (.condense op x)

end Forms

end Datacube.Expr

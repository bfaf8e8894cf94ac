import Datacube.Expr.Grammar

namespace Datacube.Expr

open Markup (Element)

def parseNumber (e : Element) : Result ScalarExpr :=
  match Number.parseFloat e.trimmedText with
  | some _ => .ok (.numeric e.trimmedText)
  | none => .error (.invalidParameter e.name ("'" ++ e.trimmedText ++ "' is not a number"))

def parseBoolean (e : Element) : Result ScalarExpr :=
  match e.trimmedText with
  | "true" => .ok (.boolean true)
  | "false" => .ok (.boolean false)
  | other => .error (.invalidParameter e.name ("'" ++ other ++ "' is not a boolean"))

def parseVariable (s : Scope) (e : Element) : Result ScalarExpr :=
  if e.trimmedText ∈ s.axisVariables then .ok (.axisVariable e.trimmedText)
  else .error (.undefinedIterator e.trimmedText)

-- Read a scalar expression whose operands are read one level deeper.
def tryScalar (g : Grammar) (s : Scope) (e : Element) : Result (Attempt ScalarExpr) :=
  match e.name with
  | "numericConstant" => do return .matched (← parseNumber e)
  | "booleanConstant" => do return .matched (← parseBoolean e)
  | "stringConstant" => .ok (.matched (.string e.text))
  | "variableRef" => do return .matched (← parseVariable s e)
  | tag =>
    match ScalarUnaryOp.ofTag? tag, ScalarBinaryOp.ofTag? tag, CondenseOp.ofTag? tag with
    | some op, _, _ => do
      let operand ← g.parseScalar s (← e.onlyChild)
      return .matched (.unary op operand)
    | none, some op, _ => do
      let (left, right) ← twoChildren e
      let first ← g.parseScalar s left
      let second ← g.parseScalar s right
      return .matched (.binary op first second)
    | none, none, some op => do
      let coverage ← g.parseCoverage s (← e.onlyChild)
      return .matched (.condense op coverage)
    | none, none, none => .ok (.declined e "scalar expression")

end Datacube.Expr

import Datacube.Expr.Grammar

namespace Datacube.Expr

open Markup (Element)

-- The parts of a case, each at most once and in either order.
structure CaseParts where
  condition : Option CoverageExpr := none
  result : Option CoverageExpr := none

def addCasePart (g : Grammar) (s : Scope) (parts : CaseParts) (part : Element) :
    Result CaseParts := do
  if part.name = "condition" ∧ parts.condition.isNone then
    let expr ← g.parseCoverage s (← part.onlyChild)
    return { parts with condition := some expr }
  else if part.name = "result" ∧ parts.result.isNone then
    let expr ← g.parseCoverage s (← part.onlyChild)
    return { parts with result := some expr }
  else
    throw (.unexpectedNode part.name)

def parseCase (g : Grammar) (s : Scope) (e : Element) : Result (CoverageExpr × CoverageExpr) := do
  let parts ← e.children.foldlM (addCasePart g s) {}
  match parts.condition, parts.result with
  | some condition, some result => return (condition, result)
  | _, _ => throw (.invalidParameter "case" "a case needs both a condition and a result")

def addDefaultPart (g : Grammar) (s : Scope) (result : Option CoverageExpr) (part : Element) :
    Result (Option CoverageExpr) := do
  if part.name ≠ "result" ∨ result.isSome then
    throw (.unexpectedNode part.name)
  let expr ← g.parseCoverage s (← part.onlyChild)
  return some expr

def parseDefault (g : Grammar) (s : Scope) (e : Element) : Result CoverageExpr := do
  match ← e.children.foldlM (addDefaultPart g s) none with
  | some result => return result
  | none => throw (.invalidParameter "default" "default case has no result")

-- Cases, then one default and nothing behind it.
def parseBranches (g : Grammar) (s : Scope) : List Element → Result Branches
  | [] => .error .missingSwitchDefault
  | e :: rest =>
    if e.name = "case" then do
      let (condition, result) ← parseCase g s e
      return .case condition result (← parseBranches g s rest)
    else if e.name = "default" then do
      let result ← parseDefault g s e
      match rest with
      | [] => return .default result
      | extra :: _ => throw (.unexpectedNode extra.name)
    else .error (.unexpectedNode e.name)

-- All conditions and results have the cells of the first of them.
def checkBranches (branches : Branches) : Result Unit :=
  (branches.exprs.drop 1).forM fun branch =>
    branches.schema.ensureCompatible branch.schema "switch branch"

def parseSwitch (g : Grammar) (s : Scope) (e : Element) : Result Branches := do
  if e.name ≠ "switch" then
    throw (.unexpectedNode e.name)
  let branches ← parseBranches g s e.children
  checkBranches branches
  return branches

end Datacube.Expr

import Datacube.Expr.Grammar

namespace Datacube.Expr

open Markup (Element)

-- Two operands of which at least one is a coverage, and the schema they give.
structure Pair where
  first : Operand
  second : Operand
  schema : Schema

def Pair.fault (left right : Element) : Error :=
  .unrecognizedConstruct (left.name ++ ", " ++ right.name)

-- Two coverages need the same cells; the schema is that of the left one.
def Pair.ofCoverages (first second : CoverageExpr) : Result Pair := do
  first.schema.ensureCompatible second.schema "binary coverage operation"
  return ⟨.coverage first, .coverage second, first.schema⟩

-- Read two operands: a coverage with a scalar, a scalar with a coverage, or two coverages. Later
-- combinations are looked at only if the earlier ones do not match.
def Pair.parse (g : Grammar) (s : Scope) (left right : Element) : Result Pair := do
  let leftCoverage ← g.coverage s left
  match leftCoverage with
  | .matched first =>
    match ← g.scalar s right with
    | .matched second => return ⟨.coverage first, .scalar second, first.schema⟩
    | .noMatch _ => pure ()
  | .noMatch _ => pure ()
  match ← g.scalar s left with
  | .matched first =>
    match ← g.coverage s right with
    | .matched second => return ⟨.scalar first, .coverage second, second.schema⟩
    | .noMatch _ => throw (Pair.fault left right)
  | .noMatch _ =>
    match leftCoverage with
    | .matched first =>
      match ← g.coverage s right with
      | .matched second => Pair.ofCoverages first second
      | .noMatch _ => throw (Pair.fault left right)
    | .noMatch _ => throw (Pair.fault left right)

end Datacube.Expr

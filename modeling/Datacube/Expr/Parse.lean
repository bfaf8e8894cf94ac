import Datacube.Expr.Construct
import Datacube.Expr.Induced
import Datacube.Expr.Reference
import Datacube.Expr.Scalar
import Datacube.Expr.SetMetadata
import Datacube.Expr.Subsetting
import Datacube.Expr.Switch

namespace Datacube.Expr

open Markup (Element)

-- The first of several readers that does not decline the element; an error ends the search.
def firstMatch (readers : List (Scope → Element → Result (Attempt CoverageExpr))) (s : Scope)
    (e : Element) : Result (Attempt CoverageExpr) :=
  match readers with
  | [] => .ok (.declined e "coverage expression")
  | read :: rest => do
    match ← read s e with
    | .matched expr => return .matched expr
    | .noMatch _ => firstMatch rest s e

-- Readers of operations that share a way of being written.
def groups (g : Grammar) : List (Scope → Element → Result (Attempt CoverageExpr)) :=
  [trySetMetadata g, tryInduced g, trySubset g]

-- Read a coverage expression whose operands are read one level deeper.
def tryCoverage (g : Grammar) (s : Scope) (e : Element) : Result (Attempt CoverageExpr) :=
  match e.name with
  | "coverage" => do return .matched (← parseReference s e)
  | "const" => do return .matched (← parseConstant e)
  | "construct" => do return .matched (← parseConstruct g s e)
  | "scale" => do return .matched (← parseScale g s e)
  | "switch" => do return .matched (.switch (← parseSwitch g s e))
  | "crsTransform" => .error (.unimplemented "crsTransform")
  | _ => firstMatch (groups g) s e

def tooDeep (limit : Nat) : Error :=
  .invalidParameter "expression"
    ("expression nesting exceeds " ++ Number.natText limit ++ " levels")

-- The readers with a number of levels left of a limit. At the limit every element is refused.
def Grammar.level (limit : Nat) : Nat → Grammar
  | 0 => ⟨fun _ _ => .error (tooDeep limit), fun _ _ => .error (tooDeep limit)⟩
  | left + 1 =>
    ⟨fun s e => tryCoverage (level limit left) s e, fun s e => tryScalar (level limit left) s e⟩

-- Expressions of at most a number of levels.
def Grammar.upTo (limit : Nat) : Grammar :=
  level limit limit

end Datacube.Expr

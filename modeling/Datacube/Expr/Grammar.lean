import Datacube.Expr.Basic
import Datacube.Markup.Element
import Datacube.Store

namespace Datacube.Expr

open Markup (Element)

-- What became of an element: it is of the wanted kind, or of another. An error says that it is of
-- the wanted kind and not valid.
inductive Attempt (α : Type) where
  | matched (value : α)
  | noMatch (reason : String)

def Attempt.map {α β : Type} (f : α → β) : Attempt α → Attempt β
  | matched value => matched (f value)
  | noMatch reason => noMatch reason

-- An element that is not what was looked for.
def Attempt.declined {α : Type} (e : Element) (wanted : String) : Attempt α :=
  noMatch ("<" ++ e.name ++ "> is not a " ++ wanted)

-- What names mean inside an expression: coverages by store and iterator, and the variables of the
-- enclosing constructors.
structure Scope where
  store : Store
  iterators : List (String × List String)
  axisVariables : List String := []

namespace Scope

def coverageNames (s : Scope) (iterator : String) : Result (List String) :=
  match s.iterators.lookup iterator with
  | some names => .ok names
  | none => .error (.undefinedIterator iterator)

def withVariables (s : Scope) (names : List String) : Scope :=
  { s with axisVariables := s.axisVariables ++ names }

end Scope

-- The two mutually dependent readers of expressions.
structure Grammar where
  coverage : Scope → Element → Result (Attempt CoverageExpr)
  scalar : Scope → Element → Result (Attempt ScalarExpr)

namespace Grammar

-- Read an element that has to be a coverage expression.
def parseCoverage (g : Grammar) (s : Scope) (e : Element) : Result CoverageExpr := do
  match ← g.coverage s e with
  | .matched expr => return expr
  | .noMatch _ => throw (.unrecognizedConstruct e.name)

def parseScalar (g : Grammar) (s : Scope) (e : Element) : Result ScalarExpr := do
  match ← g.scalar s e with
  | .matched expr => return expr
  | .noMatch _ => throw (.unrecognizedConstruct e.name)

-- Read an element that may be either, as a scalar expression first.
def parseOperand (g : Grammar) (s : Scope) (e : Element) : Result Operand := do
  match ← g.scalar s e with
  | .matched expr => return .scalar expr
  | .noMatch _ => return .coverage (← g.parseCoverage s e)

-- Read the first child that is not a named parameter as a coverage expression.
def parseOperandBeside (g : Grammar) (s : Scope) (e : Element) (parameters : List String) :
    Result CoverageExpr :=
  match e.childBeside? parameters with
  | some operand => g.parseCoverage s operand
  | none => .error (.invalidParameter e.name "missing coverage operand")

end Grammar

-- The text of a bound: that of the element, or of its first child if it has none.
def boundText (e : Element) : String :=
  let own := e.trimmedText
  if own ≠ "" then own
  else
    match e.firstChild? with
    | some child => child.trimmedText
    | none => ""

def integerParameter (parent e : Element) : Result Int :=
  match Number.parseInt64 (boundText e) with
  | some n => .ok n
  | none =>
    .error (.invalidParameter parent.name
      ("<" ++ e.name ++ "> must be an integer, got '" ++ boundText e ++ "'"))

def twoChildren (e : Element) : Result (Element × Element) :=
  match e.children with
  | [left, right] => .ok (left, right)
  | others =>
    .error (.invalidParameter e.name
      ("expected two operands, found " ++ Number.natText others.length))

end Datacube.Expr

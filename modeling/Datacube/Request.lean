import Datacube.Expr.Parse
import Datacube.Markup.Document
import Datacube.Settings

namespace Datacube

open Datacube.Markup (Element)
open Datacube.Expr (CoverageExpr ScalarExpr Operand Grammar Scope)

-- A variable that stands for each of some coverages.
structure CoverageIterator where
  var : String
  coverages : List String
deriving DecidableEq, Repr

-- What a request asks for: a coverage in some format, or a single value.
inductive ReturnClause where
  | encode (expr : CoverageExpr) (format : String) (extra : Option String) (store : Bool)
  | scalar (expr : ScalarExpr)

-- A request to process coverages.
structure Request where
  iterators : List CoverageIterator
  condition : Option Operand
  result : ReturnClause

-- A query together with the format and schema of what it gives.
structure Query where
  text : String
  format : Option String
  store : Bool
  schema : Option Schema

namespace ReturnClause

def text : ReturnClause → String
  | encode expr format extra _ =>
    if Text.sameFolded format "csv" then "csv(" ++ expr.text ++ ")"
    else
      match extra with
      | some extra => "encode(" ++ expr.text ++ ", \"" ++ format ++ "\", \"" ++ extra ++ "\")"
      | none => "encode(" ++ expr.text ++ ", \"" ++ format ++ "\")"
  | scalar expr => expr.text

def format? : ReturnClause → Option String
  | encode _ format _ _ => some format
  | scalar _ => none

def isStored : ReturnClause → Bool
  | encode _ _ _ store => store
  | scalar _ => false

def schema? : ReturnClause → Option Schema
  | encode expr _ _ _ => some expr.schema
  | scalar _ => none

end ReturnClause

namespace Request

-- Elements that may stand around the request.
def wrappers : List String :=
  ["ProcessCoveragesRequest", "query", "xmlSyntax"]

-- The element that holds the iterators: wrappers without one give way to their first child.
def unwrap (e : Element) : Result Element :=
  match e with
  | ⟨name, attributes, text, children⟩ =>
    let e : Element := ⟨name, attributes, text, children⟩
    if name ∈ wrappers ∧ (e.child? "coverageIterator").isNone then
      match children with
      | [] => e.onlyChild
      | child :: _ => unwrap child
    else .ok e

def parseIterator (earlier : List CoverageIterator) (e : Element) : Result CoverageIterator := do
  let var ← e.requiredText "iteratorVar"
  let coverages := (e.childrenNamed "coverageName").map (·.trimmedText)
  if coverages.isEmpty then
    throw (.invalidParameter "coverageIterator" ("iterator '" ++ var ++ "' names no coverage"))
  if earlier.any (·.var = var) then
    throw (.invalidParameter "coverageIterator" ("iterator '" ++ var ++ "' is defined twice"))
  return ⟨var, coverages⟩

def parseIterators (e : Element) : Result (List CoverageIterator) := do
  let add := fun (earlier : List CoverageIterator) (child : Element) => do
    return earlier ++ [← parseIterator earlier child]
  match ← (e.childrenNamed "coverageIterator").foldlM add [] with
  | [] => throw (.invalidParameter e.name "request declares no coverage iterator")
  | iterators => return iterators

def parseReturn (g : Grammar) (s : Scope) (settings : CompilerSettings) (e : Element) :
    Result ReturnClause :=
  if e.name ≠ "encode" then do return .scalar (← g.parseScalar s e)
  else
    match e.childBeside? ["format", "extraParameters"] with
    | none => .error (.invalidParameter "encode" "missing coverage expression")
    | some expr => do
      let expr ← g.parseCoverage s expr
      let format := ((e.childText? "format").filter (· ≠ "")).getD settings.defaultFormat
      let extra := (e.childText? "extraParameters").filter (· ≠ "")
      let store := (e.attribute? "store").any fun value => Text.sameFolded value "true"
      return .encode expr format extra store

def scope (store : Store) (iterators : List CoverageIterator) : Scope :=
  { store := store, iterators := iterators.map fun i => (i.var, i.coverages) }

def ofElement (store : Store) (settings : CompilerSettings) (root : Element) : Result Request := do
  let body ← unwrap root
  let iterators ← parseIterators body
  let s := scope store iterators
  let g := Grammar.upTo settings.maxDepth
  let condition ← match body.child? "where" with
    | some clause => do
      let operand ← g.parseOperand s (← clause.onlyChild)
      pure (some operand)
    | none => pure none
  match body.child? "return" with
  | none => throw (.invalidParameter body.name "request has no <return> clause")
  | some clause =>
    let result ← parseReturn g s settings (← clause.onlyChild)
    return ⟨iterators, condition, result⟩

def parse (store : Store) (settings : CompilerSettings) (document : String) : Result Request := do
  ofElement store settings (← Element.parse document)

-- One coverage for each iterator, in every combination; the last iterator varies fastest.
def combinations : List CoverageIterator → List (List (String × String))
  | [] => [[]]
  | i :: rest => i.coverages.flatMap fun c => (combinations rest).map fun more => (c, i.var) :: more

def fromClause (bindings : List (String × String)) : String :=
  ", ".intercalate (bindings.map fun (coverage, var) => coverage ++ " as " ++ var)

def whereClause (r : Request) : String :=
  match r.condition with
  | some condition => " where " ++ condition.text
  | none => ""

def queryFor (r : Request) (bindings : List (String × String)) : Query where
  text := "select " ++ r.result.text ++ " from " ++ fromClause bindings ++ r.whereClause
  format := r.result.format?
  store := r.result.isStored
  schema := r.result.schema?

-- One query for every combination of coverages.
def queries (r : Request) : List Query :=
  (combinations r.iterators).map r.queryFor

def compile (store : Store) (settings : CompilerSettings) (document : String) :
    Result (List Query) := do
  return (← parse store settings document).queries

end Request

end Datacube

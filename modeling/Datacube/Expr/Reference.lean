import Datacube.Expr.Grammar

namespace Datacube.Expr

open Markup (Element)

def readSchema (s : Scope) (name : String) : Result Schema := do
  return Schema.ofCoverage (← s.store.read name)

-- Every further coverage of an iterator must have the cells of the first.
def checkSame (s : Scope) (iterator : String) (first : Schema) : List String → Result Unit
  | [] => .ok ()
  | name :: names => do
    let other ← readSchema s name
    first.ensureCompatible other ("iterator " ++ iterator)
    checkSame s iterator first names

-- An iterator stands for its coverages and has the schema of the first.
def parseReference (s : Scope) (e : Element) : Result CoverageExpr := do
  let iterator := e.trimmedText
  match ← s.coverageNames iterator with
  | [] => throw (.undefinedIterator iterator)
  | first :: rest =>
    let schema ← readSchema s first
    checkSame s iterator schema rest
    return .reference iterator schema

end Datacube.Expr

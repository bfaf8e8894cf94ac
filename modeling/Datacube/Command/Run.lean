import Datacube.Command.Failure
import Datacube.Command.Usage
import Datacube.Environment.Assignment
import Datacube.Json.Printer
import Datacube.Request
import Datacube.Response.Capabilities
import Datacube.Response.Report

namespace Datacube.Command

open Response (Templates GetCoverage)

-- A compiled query as it is printed. Format and spatial domain are left out if there are none.
def queryJson (q : Query) : Json :=
  let optional := fun (name : String) (value : Option String) =>
    value.toList.map fun text => (name, Json.string text)
  .object
    ([("rasql", .string q.text)] ++ optional "format" q.format ++
      [("store", .bool q.store),
       ("axes", .array (((q.schema.map (·.axisLabels)).getD []).map .string))] ++
      optional "sdom" (q.schema.map (·.sdom)))

def loadTemplates {m : Type → Type} [Monad m] (fs : FileSystem m) :
    Option String → m (Except Failure Templates)
  | none => return .ok {}
  | some dir => do
    match ← Templates.loadOverrides {} fs dir with
    | .ok t => return .ok t
    | .error cause => return .error (.templates dir cause)

def parseSubset (argument : String) : Except Failure Subset :=
  match Subset.parse argument with
  | .ok s => .ok s
  | .error cause => .error (.subset argument cause)

def parseSubsets (arguments : List String) : Except Failure (List Subset) :=
  arguments.mapM parseSubset

-- Answer a request for a coverage with cells that are given instead of fetched.
def getCoverage (store : Store) (t : Templates) (settings : ResponseSettings) (r : GetCoverage)
    (data : Option String) : Result Response.Reply :=
  if r.wantsGml then
    Response.handle store { fallback := some ⟨.text (data.getD ""), none⟩ } t settings r
  else .error (.unimplemented ("output format " ++ r.format.getD "multipart"))

-- What a run leaves behind: its exit code, what it prints, and the failure if it is one.
structure Outcome where
  exit : Nat
  output : String := ""
  failure : Option Failure := none
deriving DecidableEq, Repr

namespace Outcome

def done (output : String) : Outcome :=
  { exit := 0, output := output }

def printed (text : String) : Outcome :=
  done (text ++ "\n")

def failed (f : Failure) : Outcome :=
  { exit := 1, failure := some f }

-- A request that cannot be answered is reported as well.
def refused (t : Templates) (e : Error) : Outcome :=
  { exit := 1, output := Response.exceptionReport t e ++ "\n", failure := some (.request e) }

def misused : Outcome :=
  { exit := 2 }

def ofRequest (t : Templates) : Result String → Outcome
  | .ok text => printed text
  | .error e => refused t e

def ofResult : Except Failure Outcome → Outcome
  | .ok o => o
  | .error f => failed f

end Outcome

-- Everything that commands work with.
structure Session where
  configuration : Configuration
  store : Store
  templates : Templates

namespace Session

def openWith {m : Type → Type} [Monad m] (fs : FileSystem m) (env : Environment) (a : Arguments) :
    ExceptT Failure m Session := do
  let c ← ExceptT.mk do
    return (← Configuration.make fs env a.catalog a.templates).mapError Failure.configuration
  let entry ← ExceptT.lift (fs c.catalog)
  let store ← ExceptT.mk
    (pure ((Catalog.load env c.catalog entry >>= Catalog.toStore).mapError Failure.catalog))
  let templates ← ExceptT.mk (loadTemplates fs c.templateDir)
  return ⟨c, store, templates⟩

def compile (s : Session) (document : String) : Result String := do
  let queries ← Request.compile s.store s.configuration.compiler document
  return Json.pretty 0 (.array (queries.map queryJson))

def answer (s : Session) (r : GetCoverage) (data : Option String) : Result String := do
  return (← getCoverage s.store s.templates s.configuration.response r data).xml

def capabilities (s : Session) : String :=
  (Response.Capabilities.ofStore s.store s.configuration.response).text

def readFile {m : Type → Type} [Monad m] (fs : FileSystem m) (path : String)
    (failure : String → String → Failure) : ExceptT Failure m String :=
  ExceptT.mk do return (← fs path).read.mapError (failure path)

def execute {m : Type → Type} [Monad m] (fs : FileSystem m) (s : Session) :
    Action → ExceptT Failure m Outcome
  | .compile query => do
    let document ← readFile fs query .query
    return .ofRequest s.templates (s.compile document)
  | .getCoverage id subsets data => do
    let subsets ← ExceptT.mk (pure (parseSubsets subsets))
    let data ← data.mapM fun path => readFile fs path .data
    return .ofRequest s.templates (s.answer { id := id, subsets := subsets } data)
  | .capabilities => return .printed s.capabilities

end Session

-- The file in the working directory that sets variables.
def variableFile : String := ".env"

def loadVariables {m : Type → Type} [Monad m] (fs : FileSystem m) (env : Environment) :
    m Environment := do
  match (← fs variableFile).read with
  | .ok text => return env.assign text
  | .error _ => return env

def runArguments {m : Type → Type} [Monad m] (fs : FileSystem m) (env : Environment)
    (a : Arguments) : m Outcome := do
  let result ← (do
    let s ← Session.openWith fs env a
    s.execute fs a.action : ExceptT Failure m Outcome).run
  return .ofResult result

-- Run the program on the words of its command line.
def run {m : Type → Type} [Monad m] (fs : FileSystem m) (env : Environment) (words : List String) :
    m Outcome := do
  let env ← loadVariables fs env
  match Arguments.parse env words with
  | .error (.help topic) => return .done (helpText env topic)
  | .error .misuse => return .misused
  | .ok a => runArguments fs env a

end Datacube.Command

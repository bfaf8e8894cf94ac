import Datacube.Environment.Basic
import Datacube.Text.Pieces

-- The words of a command line. Options come before the command or before and among its operands; a
-- value follows its option in the next word or, behind an equals sign, in the same one.
namespace Datacube.Command

-- What to do.
inductive Action where
  | compile (query : String)
  | getCoverage (id : String) (subsets : List String) (data : Option String)
  | capabilities
deriving DecidableEq, Repr

structure Arguments where
  catalog : Option String := none
  templates : Option String := none
  action : Action
deriving DecidableEq, Repr

-- The pages of help.
inductive Topic where
  | program
  | compile
  | getCoverage
  | capabilities
  | help
deriving DecidableEq, Repr

-- Why there is no command to run: help is asked for, or the words make no sense.
inductive Refusal where
  | help (topic : Topic)
  | misuse
deriving DecidableEq, Repr

-- What an option takes. A path is never empty.
inductive Takes where
  | nothing
  | text
  | path
deriving DecidableEq, Repr

structure OptionSpec where
  name : String
  short : Option Char := none
  takes : Takes
  repeats : Bool := false
deriving DecidableEq, Repr

-- A word by its form.
inductive Word where
  | endOfOptions
  | long (name : String) (value : Option String)
  | short (letter : Char) (rest : List Char)
  | plain (text : String)
deriving DecidableEq, Repr

def Word.ofText (text : String) : Word :=
  match text.toList with
  | ['-', '-'] => endOfOptions
  | '-' :: '-' :: rest =>
    match Text.cut '=' rest with
    | some (name, value) => long (String.ofList name) (some (String.ofList value))
    | none => long (String.ofList rest) none
  | '-' :: letter :: rest => short letter rest
  | _ => plain text

-- The value that stands in one word with a short option.
def attached? : List Char → Option String
  | [] => none
  | '=' :: value => some (String.ofList value)
  | value => some (String.ofList value)

-- What has been read: options with their values, operands, and the words behind. An option whose
-- value came in a word of its own waits until the next option or operand, or the end, to be added.
structure Reading where
  options : List (String × String) := []
  waiting : Option (OptionSpec × String) := none
  operands : List String := []
  rest : List String := []
deriving DecidableEq, Repr

namespace Reading

def value? (r : Reading) (name : String) : Option String :=
  r.options.lookup name

def values (r : Reading) (name : String) : List String :=
  (r.options.filter (·.1 = name)).map (·.2)

-- Add an option, unless it is there already and may not be repeated or its value does not do.
def insert (r : Reading) (spec : OptionSpec) (value : String) : Except Refusal Reading :=
  if (!spec.repeats ∧ (r.value? spec.name).isSome) ∨ (spec.takes = .path ∧ value = "") then
    .error .misuse
  else .ok { r with options := r.options ++ [(spec.name, value)] }

-- Add the option that waits.
def settle (r : Reading) : Except Refusal Reading :=
  match r.waiting with
  | none => .ok r
  | some (spec, value) => insert { r with waiting := none } spec value

def addOption (r : Reading) (spec : OptionSpec) (value : String) : Except Refusal Reading := do
  (← r.settle).insert spec value

def await (r : Reading) (spec : OptionSpec) (value : String) : Except Refusal Reading := do
  return { ← r.settle with waiting := some (spec, value) }

def addOperand (r : Reading) (most : Nat) (operand : String) : Except Refusal Reading := do
  let r ← r.settle
  if r.operands.length < most then return { r with operands := r.operands ++ [operand] }
  else throw .misuse

end Reading

-- The options and the number of operands that a command takes. A program takes commands: the first
-- word that is not an option ends its own options.
structure Form where
  topic : Topic
  options : List OptionSpec
  operands : Nat := 0
  takesCommand : Bool := false

namespace Form

def isHelp : Word → Bool
  | .long name value => name = "help" && value.isNone
  | .short letter _ => letter = 'h'
  | _ => false

-- The option that a word names, with a value that stands in the same word.
def option? (f : Form) : Word → Option (OptionSpec × Option String)
  | .long name value => (f.options.find? (·.name = name)).map fun spec => (spec, value)
  | .short letter rest =>
    (f.options.find? (·.short = some letter)).map fun spec => (spec, attached? rest)
  | _ => none

def readFrom (f : Form) : Reading → List String → Except Refusal Reading
  | r, [] => .ok r
  | r, text :: rest =>
    match Word.ofText text with
    | .endOfOptions =>
      if f.takesCommand then .error .misuse else rest.foldlM (·.addOperand f.operands) r
    | .plain text =>
      if f.takesCommand then .ok { r with rest := text :: rest }
      else do f.readFrom (← r.addOperand f.operands text) rest
    | word =>
      match f.option? word with
      | some (spec, some value) =>
        if spec.takes = .nothing then .error .misuse
        else do f.readFrom (← r.addOption spec value) rest
      | some (spec, none) =>
        if spec.takes = .nothing then do f.readFrom (← r.addOption spec "") rest
        else
          match rest with
          | [] => .error .misuse
          | value :: rest =>
            match Word.ofText value with
            | .plain value => do f.readFrom (← r.await spec value) rest
            | _ => .error .misuse
      | none => do
        let _ ← r.settle
        throw (if isHelp word then .help f.topic else .misuse)

def read (f : Form) (words : List String) : Except Refusal Reading := do
  (← f.readFrom {} words).settle

end Form

def programForm : Form where
  topic := .program
  takesCommand := true
  options := [
    { name := "catalog", short := some 'c', takes := .path },
    { name := "templates", takes := .path },
    { name := "log-level", takes := .text },
    { name := "json", takes := .nothing }]

def compileForm : Form where
  topic := .compile
  options := []
  operands := 1

def getCoverageForm : Form where
  topic := .getCoverage
  options := [
    { name := "subset", short := some 's', takes := .text, repeats := true },
    { name := "data", short := some 'd', takes := .path }]
  operands := 1

def capabilitiesForm : Form where
  topic := .capabilities
  options := []

namespace Action

def topic? : String → Option Topic
  | "compile" => some .compile
  | "get-coverage" => some .getCoverage
  | "capabilities" => some .capabilities
  | "help" => some .help
  | _ => none

-- The page that a call for help asks for: that of the program or of one command.
def helpTopic : List String → Refusal
  | [] => .help .program
  | [name] => ((topic? name).map Refusal.help).getD .misuse
  | _ => .misuse

def ofWords : List String → Except Refusal Action
  | "compile" :: words => do
    match (← compileForm.read words).operands with
    | [query] => if query = "" then throw .misuse else return compile query
    | _ => throw .misuse
  | "get-coverage" :: words => do
    let r ← getCoverageForm.read words
    match r.operands with
    | [id] => return getCoverage id (r.values "subset") (r.value? "data")
    | _ => throw .misuse
  | "capabilities" :: words => do
    let _ ← capabilitiesForm.read words
    return capabilities
  | "help" :: words => throw (helpTopic words)
  | _ => throw .misuse

end Action

-- A path from the command line or else from the environment, where it may not be empty either.
def pathOr (env : Environment) (name : String) (given : Option String) :
    Except Refusal (Option String) :=
  match given <|> env.value? name with
  | some "" => .error .misuse
  | path => .ok path

def Arguments.parse (env : Environment) (words : List String) : Except Refusal Arguments := do
  let r ← programForm.readFrom {} words
  let action ← Action.ofWords r.rest
  let r ← r.settle
  let catalog ← pathOr env "WCPS_CATALOG" (r.value? "catalog")
  let templates ← pathOr env "WCPS_TEMPLATE_DIR" (r.value? "templates")
  return ⟨catalog, templates, action⟩

end Datacube.Command

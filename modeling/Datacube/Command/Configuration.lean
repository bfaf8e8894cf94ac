import Datacube.FileSystem
import Datacube.Settings
import Datacube.Text.Quoted

namespace Datacube.Command

-- The settings of a run: where the catalog and the templates are, and how to compile and respond.
structure Configuration where
  catalog : String
  templateDir : Option String := none
  compiler : CompilerSettings := {}
  response : ResponseSettings := {}
deriving DecidableEq, Repr

-- Why there is nothing to run with.
inductive ConfigurationError where
  | noCatalog
  | compiler (reason : String)
  | response (reason : String)
  | noTemplateDir (dir : String)
deriving DecidableEq, Repr

def ConfigurationError.message : ConfigurationError → String
  | noCatalog => "no catalog given (use --catalog or WCPS_CATALOG)"
  | compiler reason => "invalid compiler configuration: " ++ reason
  | response reason => "invalid response configuration: " ++ reason
  | noTemplateDir dir => "template directory " ++ Text.quote dir ++ " does not exist"

namespace Configuration

def checkSettings (c : Configuration) : Except ConfigurationError Unit :=
  match c.compiler.check, c.response.check with
  | .error reason, _ => .error (.compiler reason)
  | .ok _, .error reason => .error (.response reason)
  | .ok _, .ok _ => .ok ()

-- The settings are sound, and the directory of templates is there if one is given.
def check {m : Type → Type} [Monad m] (fs : FileSystem m) (c : Configuration) :
    m (Except ConfigurationError Unit) := do
  match c.checkSettings, c.templateDir with
  | .error e, _ => return .error e
  | .ok _, none => return .ok ()
  | .ok _, some dir =>
    return if (← fs dir).isDirectory then .ok () else .error (.noTemplateDir dir)

-- Paths that are given win over those of the environment.
def make {m : Type → Type} [Monad m] (fs : FileSystem m) (env : Environment)
    (catalog templateDir : Option String) : m (Except ConfigurationError Configuration) := do
  match catalog <|> env.value? "WCPS_CATALOG" with
  | none => return .error .noCatalog
  | some path =>
    let c : Configuration := {
      catalog := path
      templateDir := templateDir <|> env.value? "WCPS_TEMPLATE_DIR"
      compiler := .ofEnvironment env
      response := .ofEnvironment env }
    return (← c.check fs).map fun _ => c

end Configuration

end Datacube.Command

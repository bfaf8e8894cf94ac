import Datacube.Catalog
import Datacube.Command.Configuration

namespace Datacube.Command

-- Why a command does not succeed.
inductive Failure where
  | configuration (cause : ConfigurationError)
  | catalog (cause : CatalogError)
  | templates (dir : String) (cause : Error)
  | query (path reason : String)
  | subset (argument : String) (cause : Subset.ParseError)
  | data (path reason : String)
  | request (cause : Error)
deriving DecidableEq, Repr

namespace Failure

-- What failed and what lies behind it, outermost first.
def chain : Failure → List String
  | configuration cause => [cause.message]
  | catalog cause => cause.message :: cause.causes
  | templates dir cause => ["Failed to load templates from " ++ Text.quote dir, cause.message]
  | query path reason => ["Failed to read query from " ++ Text.quote path, reason]
  | subset argument cause => ["Invalid subset argument '" ++ argument ++ "'", cause.message]
  | data path reason => ["Failed to read data from " ++ Text.quote path, reason]
  | request cause => [cause.message]

def message (f : Failure) : String :=
  ": ".intercalate f.chain

end Failure

end Datacube.Command

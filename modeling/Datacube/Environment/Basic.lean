namespace Datacube

-- The variables of the environment, by name.
structure Environment where
  bindings : List (String × String) := []
deriving Repr

namespace Environment

def value? (env : Environment) (name : String) : Option String :=
  env.bindings.lookup name

-- Set a variable unless it is set already.
def define (env : Environment) (name value : String) : Environment :=
  if (env.value? name).isSome then env else { bindings := env.bindings ++ [(name, value)] }

end Environment

end Datacube

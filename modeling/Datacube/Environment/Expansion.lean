import Datacube.Environment.Basic
import Datacube.Text.Blank
import Datacube.Text.Pieces

namespace Datacube.Environment

-- Why references to variables cannot be expanded.
inductive ExpansionError where
  | unset (reference : String)
  | unclosed (rest : String)
deriving DecidableEq, Repr

def ExpansionError.message : ExpansionError → String
  | unset reference => "Environment variable " ++ reference ++ " not set"
  | unclosed rest => "Unclosed variable substitution: $\x7b" ++ rest

-- The value of what stands between the braces of a reference. A default follows the first `:-`, and
-- stands in for a variable that is empty as well as for one that is not set.
def resolve (env : Environment) (reference : List Char) : Except ExpansionError (List Char) :=
  match Text.cutMark [':', '-'] reference with
  | some (name, default) =>
    match (env.value? (Text.trim (String.ofList name))).filter (· ≠ "") with
    | some value => .ok value.toList
    | none => .ok default
  | none =>
    match env.value? (Text.trim (String.ofList reference)) with
    | some value => .ok value.toList
    | none => .error (.unset (String.ofList reference))

-- Put the values of variables for references to them, from left to right. Values are not looked at
-- again.
def expandChars (env : Environment) (cs : List Char) : Except ExpansionError (List Char) :=
  match _h : Text.cutMark ['$', '\x7b'] cs with
  | none => .ok cs
  | some (before, rest) =>
    match _h' : Text.cut '\x7d' rest with
    | none => .error (.unclosed (String.ofList rest))
    | some (reference, after) => do
      let value ← resolve env reference
      let expanded ← expandChars env after
      return before ++ value ++ expanded
termination_by cs.length
decreasing_by
  have hm := Text.length_cutMark _h
  have hc := Text.length_cut _h'
  simp only [List.length_cons, List.length_nil] at hm
  omega

def expand (env : Environment) (text : String) : Except ExpansionError String := do
  return String.ofList (← expandChars env text.toList)

end Datacube.Environment

import Datacube.Number.Real

namespace Datacube

-- A structured value. Numbers keep their text, so that nothing of them is lost before it is known
-- what they are read as; the members of an object keep their order.
inductive Json where
  | null
  | bool (value : Bool)
  | number (text : String)
  | string (text : String)
  | array (items : List Json)
  | object (members : List (String × Json))
deriving Repr, Inhabited

namespace Json

-- The member of a given name; of several the last one counts.
def member? (name : String) : Json → Option Json
  | object members => members.reverse.lookup name
  | _ => none

def isObject : Json → Bool
  | object _ => true
  | _ => false

def string? : Json → Option String
  | string text => some text
  | _ => none

def bool? : Json → Option Bool
  | bool value => some value
  | _ => none

def array? : Json → Option (List Json)
  | array items => some items
  | _ => none

-- The words for doubles that no numeral denotes.
def specialFloat? (text : String) : Option Float :=
  if text ∈ [".inf", ".Inf", ".INF", "+.inf", "+.Inf", "+.INF"] then some Number.infinity
  else if text ∈ ["-.inf", "-.Inf", "-.INF"] then some (-Number.infinity)
  else if text ∈ [".nan", ".NaN", ".NAN"] then some Number.notANumber
  else none

def float? : Json → Option Float
  | number text =>
    match specialFloat? text with
    | some x => some x
    | none => (Number.parseFloat text).filter (·.isFinite)
  | _ => none

def int64? : Json → Option Int
  | number text => Number.parseInt64 text
  | _ => none

def uint64? : Json → Option Nat
  | number text => Number.parseUInt64 text
  | _ => none

end Json

end Datacube

import Datacube.Error
import Datacube.Number.Decimal
import Datacube.Number.Real
import Datacube.Text.Blank
import Datacube.Text.Pieces

namespace Datacube.Response

-- Cells as a list of tuples: the braces around bands and the quotes go.
def tupleList (csv : String) : String :=
  String.ofList (csv.toList.filter fun c => c ≠ '\x7b' ∧ c ≠ '\x7d' ∧ c ≠ '"')

def dataBlock (tuples : String) : String :=
  "<gml:DataBlock><gml:rangeParameters/><gml:tupleList>" ++ tuples ++
    "</gml:tupleList></gml:DataBlock>"

-- The texts between occurrences of a closing bracket followed by an opening one.
def splitDomains : List Char → List (List Char)
  | [] => [[]]
  | [c] => [[c]]
  | c :: d :: cs =>
    if c = ']' ∧ d = '[' then [] :: splitDomains cs
    else
      match splitDomains (d :: cs) with
      | [] => [[c]]
      | p :: ps => (c :: p) :: ps

-- What stands between the first opening and the last closing bracket.
def insideBrackets? (cs : List Char) : Option (List Char) :=
  match cs with
  | '[' :: rest => if rest.getLast? = some ']' then some rest.dropLast else none
  | _ => none

-- The numbers of an interval; none if they are not both numbers.
def parseInterval (cs : List Char) : Result (Option (Float × Float)) :=
  match Text.cut ':' cs with
  | none =>
    .error (.invalidParameter "sdom" ("'" ++ String.ofList cs ++ "' is not an interval"))
  | some (lo, hi) =>
    let number := fun (t : List Char) => Number.parseFloat (Text.trim (String.ofList t))
    match number lo, number hi with
    | some lo, some hi => .ok (some (lo, hi))
    | _, _ => .ok none

def emptyBounds : Float × Float :=
  (Number.infinity, -Number.infinity)

def widen (bounds : Float × Float) : Option (Float × Float) → Float × Float
  | some (lo, hi) => (Number.leastFloat bounds.1 lo, Number.greatestFloat bounds.2 hi)
  | none => bounds

-- Widen the bounds of each dimension by the interval of a domain there. Dimensions without bounds
-- start with none.
def widenAll : List (Float × Float) → List (Option (Float × Float)) → List (Float × Float)
  | bounds, [] => bounds
  | [], interval :: rest => widen emptyBounds interval :: widenAll [] rest
  | b :: bounds, interval :: rest => widen b interval :: widenAll bounds rest

def widenByDomain (bounds : List (Float × Float)) (domain : List Char) :
    Result (List (Float × Float)) := do
  let intervals ← (Text.pieces ',' domain).mapM parseInterval
  return widenAll bounds intervals

-- The least lower and greatest upper bounds over all domains of a text such as `[0:9][2:12]`.
def domainBounds (sdom : String) : Result (String × String) :=
  match insideBrackets? (Text.trimChars sdom.toList) with
  | none => .error (.invalidParameter "sdom" ("'" ++ sdom ++ "' is not a spatial domain"))
  | some inside => do
    let bounds ← (splitDomains inside).foldlM widenByDomain []
    return (Number.floatTexts (bounds.map (·.1)), Number.floatTexts (bounds.map (·.2)))

def singleMax : String :=
  Number.natText (34028235 * Number.tenTo 31)

def doubleMax : String :=
  Number.floatText (Float.ofBits 0x7FEFFFFFFFFFFFFF)

-- The values that the cells of a type can have.
def datatypeInterval? (datatype : String) : Option (String × String) :=
  match Text.trim datatype with
  | "boolean" => some ("0", "1")
  | "char" => some ("-128", "128")
  | "unsigned char" => some ("0", "255")
  | "short" => some ("-32768", "32767")
  | "unsigned short" => some ("0", "65535")
  | "int" => some ("-2147483648", "2147483647")
  | "unsigned int" => some ("0", "4294967295")
  | "long" => some ("-9223372036854775808", "9223372036854775807")
  | "unsigned long" => some ("0", "18446744073709551615")
  | "float" => some ("-" ++ singleMax, singleMax)
  | "double" => some ("-" ++ doubleMax, doubleMax)
  | _ => none

end Datacube.Response

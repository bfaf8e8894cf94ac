import Datacube.Text.Blank
import Datacube.Text.Pieces

namespace Datacube

-- What is kept of an axis: the part between two bounds, or a single point.
inductive Selection where
  | trim (low high : String)
  | slice (point : String)
deriving DecidableEq, Repr

-- A selection on the axis of a given name. Bounds are texts, in grid cells if no reference system
-- is given.
structure Subset where
  axis : String
  crs : Option String
  selection : Selection
deriving DecidableEq, Repr

namespace Subset

-- A bound that keeps what there is.
def openBound : String := "*"

def trim (axis low high : String) : Subset :=
  ⟨axis, none, .trim low high⟩

def slice (axis point : String) : Subset :=
  ⟨axis, none, .slice point⟩

def withCrs (s : Subset) (crs : String) : Subset :=
  { s with crs := some crs }

def isSlice (s : Subset) : Bool :=
  s.selection matches .slice _

-- Lower and upper bound; a slice has its point twice.
def bounds (s : Subset) : String × String :=
  match s.selection with
  | .trim low high => (low, high)
  | .slice point => (point, point)

def Selection.text : Selection → String
  | .trim low high => low ++ "," ++ high
  | .slice point => point

def text (s : Subset) : String :=
  s.axis ++ "(" ++ Selection.text s.selection ++ ")"

-- A text that is not a subset, without the blanks around it.
structure ParseError where
  text : String
deriving DecidableEq, Repr

def ParseError.message (e : ParseError) : String :=
  "Invalid subset format: " ++ e.text ++ ". Expected 'axis(low,high)' or 'axis(point)'"

-- The axis and, behind the first comma, the reference system.
def parseHead (head : List Char) : String × Option String :=
  match Text.cut ',' head with
  | some (axis, crs) =>
    (String.ofList (Text.trimChars axis), some (String.ofList (Text.trimChars crs)))
  | none => (String.ofList (Text.trimChars head), none)

-- One or two bounds that are not empty.
def parseSelection (body : List Char) : Option Selection :=
  match (Text.pieces ',' body).map Text.trimChars with
  | [point] => if point = [] then none else some (.slice (String.ofList point))
  | [low, high] =>
    if low = [] ∨ high = [] then none
    else some (.trim (String.ofList low) (String.ofList high))
  | _ => none

-- The text up to its last character, if that is a closing parenthesis.
def beforeClose (cs : List Char) : Option (List Char) :=
  if cs.getLast? = some ')' then some cs.dropLast else none

-- Read `axis(low,high)` or `axis(point)`, where `,crs` may follow the axis.
def parse (text : String) : Except ParseError Subset :=
  let cs := Text.trimChars text.toList
  let parsed : Option Subset := do
    let (head, rest) ← Text.cut '(' cs
    if head = [] then none
    else
      let body ← beforeClose rest
      let selection ← parseSelection body
      let (axis, crs) := parseHead head
      some ⟨axis, crs, selection⟩
  match parsed with
  | some s => .ok s
  | none => .error ⟨String.ofList cs⟩

end Subset

end Datacube

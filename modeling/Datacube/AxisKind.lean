import Datacube.Text.Case

namespace Datacube

-- What a coverage axis measures: easting, northing, time, or anything else.
inductive AxisKind where
  | x
  | y
  | time
  | other
deriving DecidableEq, Repr

namespace AxisKind

def all : List AxisKind := [x, y, time, other]

def label : AxisKind → String
  | x => "x"
  | y => "y"
  | time => "t"
  | other => "other"

-- Labels are read without the blanks around them and in any case. No character outside ASCII has a
-- lower-case form among the letters of these labels, so folding ASCII letters is enough.
def ofLabel? (label : String) : Option AxisKind :=
  match Text.lowerAscii (Text.trim label) with
  | "x" => some x
  | "y" => some y
  | "t" => some time
  | "time" => some time
  | "other" => some other
  | _ => none

def isSpatial : AxisKind → Bool
  | x | y => true
  | time | other => false

end AxisKind

end Datacube

import Datacube.Text.Blank

namespace Datacube.Text

-- Upper-case ASCII letters become lower-case; every other character stays.
def lowerAscii (s : String) : String :=
  String.ofList (s.toList.map Char.toLower)

-- Equality up to the case of ASCII letters.
def sameFolded (a b : String) : Bool :=
  lowerAscii a == lowerAscii b

end Datacube.Text

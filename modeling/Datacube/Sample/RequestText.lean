import Datacube.Text.Blank

-- Texts of requests and expressions, put together from their parts.
namespace Datacube.Sample

def element (tag content : String) : String :=
  "<" ++ tag ++ ">" ++ content ++ "</" ++ tag ++ ">"

def coverage (var : String) : String :=
  element "coverage" var

def number (value : String) : String :=
  element "numericConstant" value

def binary (tag left right : String) : String :=
  element tag (left ++ right)

def trim (operand axis lo hi : String) : String :=
  element "trim"
    (operand ++ element "axis" axis ++ element "lowerBound" lo ++ element "upperBound" hi)

def slice (operand axis point : String) : String :=
  element "slice" (operand ++ element "axis" axis ++ element "slicingPosition" point)

def encode (expr format : String) : String :=
  "<encode store=\"false\">" ++ expr ++ element "format" format ++ "</encode>"

def iterator (var : String) (names : List String) : String :=
  element "coverageIterator"
    (element "iteratorVar" var ++ String.join (names.map (element "coverageName")))

-- A whole request: iterators with their coverages, a possible condition, and what to return.
def processCoverages (iterators : List (String × List String)) (condition : Option String)
    (result : String) : String :=
  let body :=
    String.join (iterators.map fun (var, names) => iterator var names) ++
      (condition.map (element "where")).getD "" ++ element "return" result
  "<ProcessCoveragesRequest xmlns=\"http://www.opengis.net/wcps/1.0\">" ++
    element "query" (element "xmlSyntax" body) ++ "</ProcessCoveragesRequest>"

-- Every run of blanks becomes one space.
def squeeze (text : String) : String :=
  " ".intercalate (Text.words text)

end Datacube.Sample

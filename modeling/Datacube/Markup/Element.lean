import Datacube.Error
import Datacube.Text.Blank

namespace Datacube.Markup

-- An element of a document. Its text is what stands between its tags outside its children.
structure Element where
  name : String
  attributes : List (String × String) := []
  text : String := ""
  children : List Element := []
deriving Repr

namespace Element

def trimmedText (e : Element) : String :=
  Text.trim e.text

def child? (e : Element) (name : String) : Option Element :=
  e.children.find? (·.name = name)

def childrenNamed (e : Element) (name : String) : List Element :=
  e.children.filter (·.name = name)

-- The first child whose name is not one of the given ones.
def childBeside? (e : Element) (names : List String) : Option Element :=
  e.children.find? (·.name ∉ names)

def firstChild? (e : Element) : Option Element :=
  e.children.head?

def attribute? (e : Element) (name : String) : Option String :=
  e.attributes.lookup name

def childText? (e : Element) (name : String) : Option String :=
  (e.child? name).map (·.trimmedText)

def requiredText (e : Element) (name : String) : Result String :=
  match e.childText? name with
  | some text => .ok text
  | none => .error (.invalidParameter e.name ("missing <" ++ name ++ "> element"))

def onlyChild (e : Element) : Result Element :=
  match e.firstChild? with
  | some c => .ok c
  | none => .error (.invalidParameter e.name "element has no child expression")

end Element

end Datacube.Markup

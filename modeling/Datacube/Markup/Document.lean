import Datacube.Markup.Attribute
import Datacube.Markup.Element

namespace Datacube.Markup

-- An element that is still open, with its name as written.
structure OpenElement where
  raw : List Char
  element : Element

def elementOf (content : List Char) : Except Fault Element := do
  let attributes ← attributes content
  return { name := String.ofList (localName (rawName content)), attributes := attributes }

def Element.addChild (e child : Element) : Element :=
  { e with children := e.children ++ [child] }

def Element.addText (e : Element) (text : String) : Element :=
  { e with text := e.text ++ text }

-- The open elements from the innermost outwards, and the finished root.
structure Draft where
  opened : List OpenElement := []
  root : Option Element := none

namespace Draft

-- Put a finished element into the one that is open around it, or make it the root.
def attach (p : Draft) (e : Element) : Except Fault Draft :=
  match p.opened, p.root with
  | parent :: outer, root =>
    .ok ⟨{ parent with element := parent.element.addChild e } :: outer, root⟩
  | [], none => .ok ⟨[], some e⟩
  | [], some _ => .error (.secondRoot e.name)

-- Text outside the root is dropped. Each piece loses the blanks around it.
def addText (p : Draft) (cs : List Char) : Draft :=
  match p.opened with
  | current :: outer =>
    { p with
      opened :=
        { current with element := current.element.addText (String.ofList (Text.trimChars cs)) } ::
          outer }
  | [] => p

-- Spaces behind the name of an end tag do not count, unless there is nothing else.
def endName (cs : List Char) : List Char :=
  match (cs.reverse.dropWhile isSpace).reverse with
  | [] => cs
  | name => name

def close (p : Draft) (name : List Char) : Except Fault Draft :=
  match p.opened with
  | [] => .error (.endMismatch "" (String.ofList name))
  | current :: outer =>
    if endName name = current.raw then attach ⟨outer, p.root⟩ current.element
    else .error (.endMismatch (String.ofList current.raw) (String.ofList (endName name)))

def step (p : Draft) : Token → Except Fault Draft
  | .text cs => do
    let text ← unescape cs
    return p.addText text
  | .literal cs => .ok (p.addText cs)
  | .startTag content => do
    let e ← elementOf content
    return { p with opened := ⟨rawName content, e⟩ :: p.opened }
  | .emptyTag content => do
    let e ← elementOf content
    p.attach e
  | .endTag name => p.close name
  | .fault f => .error f

def finish (p : Draft) : Except Fault Element :=
  match p.opened, p.root with
  | current :: _, _ => .error (.unclosed current.element.name)
  | [], some root => .ok root
  | [], none => .error .noRoot

end Draft

def buildTree (ts : List Token) : Except Fault Element := do
  let p ← ts.foldlM Draft.step {}
  p.finish

-- Read a document and give its root element.
def Element.parse (document : String) : Result Element :=
  match buildTree (tokens document.toList) with
  | .ok root => .ok root
  | .error fault => .error (.invalidXml fault.message)

end Datacube.Markup

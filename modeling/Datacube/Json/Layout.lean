import Datacube.Text.Pieces

-- A catalog is written in JSON under further rules of layout: only printable characters; no
-- tabulator before or behind the value where a line starts; a name and its colon close together on
-- one line; comments from a number sign to the end of the line; and line breaks in quoted texts that
-- are folded together with the blanks around them.
namespace Datacube.Json

-- A line feed or return, the next-line control, and the separators of lines and paragraphs.
def isBreak (c : Char) : Bool :=
  c == '\n' || c == '\r' || c == '\u0085' || c == '\u2028' || c == '\u2029'

def isPrintable (c : Char) : Bool :=
  let n := c.toNat
  c == '\t' || c == '\n' || c == '\r' || (0x20 ≤ n && n ≤ 0x7E) || n == 0x85 ||
    (0xA0 ≤ n && n != 0xFFFE && n != 0xFFFF)

-- A return and a feed are one break.
def joinReturns : List Char → List Char
  | '\r' :: '\n' :: cs => '\n' :: joinReturns cs
  | c :: cs => c :: joinReturns cs
  | [] => []

-- From the start of a quoted name to its colon there are at most this many bytes.
def nameReach : Nat := 1024

-- Where in a catalog the reader is. `depth` counts the open brackets. `name` counts the bytes since
-- the quote that opened the last quoted text, as long as nothing but blanks follows it on its line.
inductive Place where
  | gap (depth : Nat) (lineStart : Bool) (name : Option Nat)
  | comment (depth : Nat)
  | quoted (depth : Nat) (name : Option Nat) (blanks : List Char)
  | escape (depth : Nat) (name : Option Nat)
  | fold (depth : Nat) (first : Char) (more : List Char) (indented : Bool)
deriving DecidableEq, Repr

-- Blanks and breaks inside a quoted text, as they are written in JSON. The separators of lines and
-- paragraphs stay as they are, every other break is a line feed.
def writtenBlank (c : Char) : List Char :=
  if c == '\t' then ['\\', 't']
  else if isBreak c && c != '\u2028' && c != '\u2029' then ['\\', 'n']
  else [c]

-- A single break is a space. Of several the first is dropped, and so are the blanks around them. A
-- separator in front is kept with all that follow.
def foldBreaks (first : Char) (more : List Char) : List Char :=
  if first == '\u2028' || first == '\u2029' then first :: more.flatMap writtenBlank
  else if more.isEmpty then [' ']
  else more.flatMap writtenBlank

def farther (c : Char) (name : Option Nat) : Option Nat :=
  name.map (· + c.utf8Size)

-- One character of a quoted text: what to write for it, and where that leads.
def quotedStep (depth : Nat) (name : Option Nat) (blanks : List Char) (c : Char) :
    List Char × Place :=
  let before := blanks.reverse.flatMap writtenBlank
  let name := farther c name
  if c == '"' then (before ++ [c], .gap depth false name)
  else if c == '\\' then (before ++ [c], .escape depth name)
  else if c == ' ' || c == '\t' then ([], .quoted depth name (c :: blanks))
  else if isBreak c then ([], .fold depth c [] false)
  else (before ++ [c], .quoted depth name [])

-- One character outside of quotes and comments.
def gapStep (depth : Nat) (lineStart : Bool) (name : Option Nat) (c : Char) :
    Option (List Char × Place) :=
  if c == '\t' && depth == 0 && lineStart then none
  else if c == ' ' || c == '\t' then some ([c], .gap depth lineStart (farther c name))
  else if isBreak c then some (['\n'], .gap depth true none)
  else if c == '"' then some ([c], .quoted depth (some 1) [])
  else if c == ':' then
    if name.any (· ≤ nameReach) then some ([c], .gap depth false none) else none
  else if c == '\x7b' || c == '[' then some ([c], .gap (depth + 1) false none)
  else if c == '\x7d' || c == ']' then some ([c], .gap (depth - 1) false none)
  else some ([c], .gap depth false none)

def Place.step : Place → Char → Option (List Char × Place)
  | gap depth lineStart name, c =>
    if c == '#' then some ([], .comment depth) else gapStep depth lineStart name c
  | comment depth, c =>
    some (if isBreak c then (['\n'], .gap depth true none) else ([], .comment depth))
  | quoted depth name blanks, c => some (quotedStep depth name blanks c)
  | escape depth name, c => some ([c], .quoted depth (farther c name) [])
  | fold depth first more _, c =>
    if c == ' ' || c == '\t' then some ([], .fold depth first more true)
    else if isBreak c then some ([], .fold depth first (more ++ [c]) false)
    else
      let (text, place) := quotedStep depth none [] c
      some (foldBreaks first more ++ text, place)

-- Three dashes or dots alone at the start of a line would end the catalog.
def isDocumentMark (cs : List Char) : Bool :=
  (cs.take 3 == ['-', '-', '-'] || cs.take 3 == ['.', '.', '.']) &&
    (cs.drop 3).head?.all fun c => c == ' ' || c == '\t' || isBreak c

def Place.isMarkable : Place → Bool
  | fold _ _ _ indented => !indented
  | _ => false

-- The JSON text that a catalog stands for, from a place on.
def plainFrom : Place → List Char → Option (List Char)
  | .gap .., [] | .comment _, [] => some []
  | _, [] => none
  | place, c :: cs =>
    if place.isMarkable && isDocumentMark (c :: cs) then none
    else
      match place.step c with
      | none => none
      | some (text, place) => (plainFrom place cs).map (text ++ ·)

-- The JSON text that a catalog stands for, if its layout is right.
def plain? (cs : List Char) : Option (List Char) :=
  if cs.all isPrintable then plainFrom (.gap 0 true none) (joinReturns cs) else none

end Datacube.Json

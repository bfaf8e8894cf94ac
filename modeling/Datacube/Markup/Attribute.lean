import Datacube.Markup.Entity
import Datacube.Markup.Token

namespace Datacube.Markup

-- Where the reader stands between the attributes of a tag.
inductive Place where
  | gap
  | key (start : Nat) (acc : List Char)
  | afterKey (start : Nat) (key : List Char)
  | beforeValue (key : List Char)
  | value (key : List Char) (quote : Char) (acc : List Char)

-- The keys read so far with their positions, unless the new one is among them.
def addKey (seen : List (List Char × Nat)) (start : Nat) (key : List Char) :
    Except Fault (List (List Char × Nat)) :=
  match seen.lookup key with
  | some previous => .error (.duplicatedAttribute start previous)
  | none => .ok ((key, start) :: seen)

-- Read the attributes that follow, from a byte position on. The first character of a key belongs to
-- it whatever it is.
def attributesFrom : Place → List (List Char × Nat) → Nat → List Char →
    Except Fault (List (List Char × List Char))
  | .gap, _, _, [] => .ok []
  | .key _ _, _, position, [] => .error (.expectedEquals position)
  | .afterKey _ _, _, position, [] => .error (.expectedEquals position)
  | .beforeValue _, _, position, [] => .error (.expectedValue position)
  | .value _ quote _, _, position, [] => .error (.expectedQuote position quote)
  | .gap, seen, position, c :: cs =>
    if isSpace c then attributesFrom .gap seen (position + 1) cs
    else attributesFrom (.key position [c]) seen (position + c.utf8Size) cs
  | .key start acc, seen, position, c :: cs =>
    if c = '=' then do
      let seen ← addKey seen start acc.reverse
      attributesFrom (.beforeValue acc.reverse) seen (position + 1) cs
    else if isSpace c then
      attributesFrom (.afterKey start acc.reverse) seen (position + 1) cs
    else attributesFrom (.key start (c :: acc)) seen (position + c.utf8Size) cs
  | .afterKey start key, seen, position, c :: cs =>
    if c = '=' then do
      let seen ← addKey seen start key
      attributesFrom (.beforeValue key) seen (position + 1) cs
    else if isSpace c then attributesFrom (.afterKey start key) seen (position + 1) cs
    else .error (.expectedEquals position)
  | .beforeValue key, seen, position, c :: cs =>
    if isSpace c then attributesFrom (.beforeValue key) seen (position + 1) cs
    else if c = '"' ∨ c = '\'' then attributesFrom (.value key c []) seen (position + 1) cs
    else .error (.unquotedValue position)
  | .value key quote acc, seen, position, c :: cs =>
    if c = quote then do
      let value ← unescape acc.reverse
      let more ← attributesFrom .gap seen (position + 1) cs
      return (key, value) :: more
    else attributesFrom (.value key quote (c :: acc)) seen (position + c.utf8Size) cs

-- A name without what stands up to its first colon.
def localName (cs : List Char) : List Char :=
  match Text.cut ':' cs with
  | some (_, name) => name
  | none => cs

-- The name as it is written in a tag: everything up to the first space.
def rawName (content : List Char) : List Char :=
  content.takeWhile (!isSpace ·)

def attributes (content : List Char) : Except Fault (List (String × String)) := do
  let name := rawName content
  let pairs ← attributesFrom .gap [] (byteLength name) (content.drop name.length)
  return pairs.map fun (key, value) => (String.ofList (localName key), String.ofList value)

end Datacube.Markup

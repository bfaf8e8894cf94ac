import Datacube.Markup.Fault
import Datacube.Text.Pieces

namespace Datacube.Markup

def escapeChar : Char → List Char
  | '<' => "&lt;".toList
  | '>' => "&gt;".toList
  | '&' => "&amp;".toList
  | '\'' => "&apos;".toList
  | '"' => "&quot;".toList
  | c => [c]

-- Safe in text and in attribute values of either quote.
def escape (s : String) : String :=
  Text.replaceEach escapeChar s

def escapeTextChar : Char → List Char
  | '<' => "&lt;".toList
  | '>' => "&gt;".toList
  | '&' => "&amp;".toList
  | c => [c]

-- Safe in text only: quotes stay.
def escapeText (s : String) : String :=
  Text.replaceEach escapeTextChar s

def hexValue? (c : Char) : Option Nat :=
  if '0' ≤ c ∧ c ≤ '9' then some (c.toNat - '0'.toNat)
  else if 'a' ≤ c ∧ c ≤ 'f' then some (c.toNat - 'a'.toNat + 10)
  else if 'A' ≤ c ∧ c ≤ 'F' then some (c.toNat - 'A'.toNat + 10)
  else none

def parseHexadecimal (cs : List Char) : Except Fault Nat :=
  if 6 < byteLength cs then .error .longHexadecimal
  else
    cs.foldlM (fun n c =>
      match hexValue? c with
      | some d => .ok (16 * n + d)
      | none => .error (.badHexadecimal (leadByte c))) 0

def parseDecimal (cs : List Char) : Except Fault Nat :=
  if 7 < byteLength cs then .error .longDecimal
  else
    cs.foldlM (fun n c =>
      if Number.isDigit c then .ok (10 * n + Number.digitValue c)
      else .error (.badDecimal (leadByte c))) 0

-- The character that `&name;` stands for. The ampersand is at `first`, the semicolon at `last`.
def resolveEntity (first last : Nat) (name : List Char) : Except Fault Char :=
  match name with
  | '#' :: number => do
    let code ← match number with
      | 'x' :: digits => parseHexadecimal digits
      | digits => parseDecimal digits
    if code = 0 then .error (.nullEntity first last)
    else if code.isValidChar then .ok (Char.ofNat code)
    else .error (.badCodePoint code)
  | _ =>
    match String.ofList name with
    | "lt" => .ok '<'
    | "gt" => .ok '>'
    | "amp" => .ok '&'
    | "apos" => .ok '\''
    | "quot" => .ok '"'
    | unknown => .error (.unknownEntity (first + 1) last unknown)

-- Walk through a text of `length` bytes. Inside an entity the position of its ampersand and its
-- name so far, backwards, are kept.
def unescapeFrom (length : Nat) :
    Nat → Option (Nat × List Char) → List Char → Except Fault (List Char)
  | _, none, [] => .ok []
  | _, some (first, _), [] => .error (.unterminatedEntity first length)
  | position, none, c :: cs =>
    if c = '&' then unescapeFrom length (position + 1) (some (position, [])) cs
    else do
      let rest ← unescapeFrom length (position + c.utf8Size) none cs
      return c :: rest
  | position, some (first, name), c :: cs =>
    if c = '&' then .error (.unterminatedEntity first length)
    else if c = ';' then do
      let resolved ← resolveEntity first position name.reverse
      let rest ← unescapeFrom length (position + 1) none cs
      return resolved :: rest
    else unescapeFrom length (position + c.utf8Size) (some (first, c :: name)) cs

-- Replace entities by the characters they stand for.
def unescape (cs : List Char) : Except Fault (List Char) :=
  unescapeFrom (byteLength cs) 0 none cs

end Datacube.Markup

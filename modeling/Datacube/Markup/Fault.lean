import Datacube.Number.Integer
import Datacube.Text.Quoted

namespace Datacube.Markup

-- What is wrong with a document. Positions count bytes.
inductive Fault where
  | unexpectedEnd (reading : String)
  | badDeclaration (symbol : Char)
  | emptyDoctype
  | endMismatch (expected found : String)
  | unterminatedEntity (first last : Nat)
  | unknownEntity (first last : Nat) (name : String)
  | nullEntity (first last : Nat)
  | longHexadecimal
  | longDecimal
  | badHexadecimal (symbol : Char)
  | badDecimal (symbol : Char)
  | badCodePoint (code : Nat)
  | expectedEquals (position : Nat)
  | duplicatedAttribute (position previous : Nat)
  | expectedValue (position : Nat)
  | unquotedValue (position : Nat)
  | expectedQuote (position : Nat) (quote : Char)
  | unclosed (name : String)
  | secondRoot (name : String)
  | noRoot
deriving DecidableEq, Repr

private def atRange (first last : Nat) (reason : String) : String :=
  "Error while escaping character at range " ++ Number.natText first ++ ".." ++
    Number.natText last ++ ": " ++ reason

private def atPosition (position : Nat) (reason : String) : String :=
  "position " ++ Number.natText position ++ ": " ++ reason

private def shown (c : Char) : String :=
  String.ofList [c]

def Fault.message : Fault → String
  | unexpectedEnd reading => "Unexpected EOF during reading " ++ reading
  | badDeclaration symbol =>
    "Only Comment (`--`), CDATA (`[CDATA[`) and DOCTYPE (`DOCTYPE`) nodes can start with a '!', " ++
      "but symbol `" ++ shown symbol ++ "` found"
  | emptyDoctype => "DOCTYPE declaration must not be empty"
  | endMismatch expected found => "Expecting </" ++ expected ++ "> found </" ++ found ++ ">"
  | unterminatedEntity first last => atRange first last "Cannot find ';' after '&'"
  | unknownEntity first last name =>
    atRange first last ("Unrecognized escape symbol: " ++ Text.quote name)
  | nullEntity first last => atRange first last "Null character entity not allowed"
  | longHexadecimal => "Cannot convert hexadecimal to utf8"
  | longDecimal => "Cannot convert decimal to utf8"
  | badHexadecimal symbol => "'" ++ shown symbol ++ "' is not a valid hexadecimal character"
  | badDecimal symbol => "'" ++ shown symbol ++ "' is not a valid decimal character"
  | badCodePoint code => "'" ++ Number.natText code ++ "' is not a valid codepoint"
  | expectedEquals position =>
    atPosition position "attribute key must be directly followed by `=` or space"
  | duplicatedAttribute position previous =>
    atPosition position
      ("duplicated attribute, previous declaration at position " ++ Number.natText previous)
  | expectedValue position => atPosition position "`=` must be followed by an attribute value"
  | unquotedValue position =>
    atPosition position "attribute value must be enclosed in `\"` or `'`"
  | expectedQuote position quote =>
    atPosition position ("missing closing quote `" ++ shown quote ++ "` in attribute value")
  | unclosed name => "unclosed element <" ++ name ++ ">"
  | secondRoot name => "second root element <" ++ name ++ ">"
  | noRoot => "document has no root element"

-- The first byte of a character's encoding, shown as the character of that number. Faults that name
-- a byte show it in this way.
def leadByte (c : Char) : Char :=
  let n := c.toNat
  if n < 0x80 then c
  else if n < 0x800 then Char.ofNat (0xC0 + n / 0x40)
  else if n < 0x10000 then Char.ofNat (0xE0 + n / 0x1000)
  else Char.ofNat (0xF0 + n / 0x40000)

def byteLength (cs : List Char) : Nat :=
  cs.foldr (fun c n => c.utf8Size + n) 0

end Datacube.Markup

import Datacube.Markup.Fault
import Datacube.Text.Case

namespace Datacube.Markup

-- The blanks of the markup itself.
def isSpace (c : Char) : Bool :=
  c == ' ' || c == '\r' || c == '\n' || c == '\t'

-- The pieces of a document in order. Tags carry what stands between their angle brackets, without
-- the slash of an end tag or an empty element. A fault is always the last piece.
inductive Token where
  | text (cs : List Char)
  | literal (cs : List Char)
  | startTag (content : List Char)
  | emptyTag (content : List Char)
  | endTag (name : List Char)
  | fault (f : Fault)
deriving DecidableEq, Repr

-- What the characters read so far belong to.
inductive Mode where
  | text
  | opening
  | declaration
  | comment
  | literal
  | doctype (depth : Nat)
  | instruction
  | endTag
  | tag (quote : Option Char)
deriving DecidableEq, Repr

-- Text without the blanks around it; blank text is no token.
def textTokens (cs : List Char) : List Token :=
  match Text.stripEnds isSpace cs with
  | [] => []
  | kept => [.text kept]

def beginsFolded (start cs : List Char) : Bool :=
  (cs.take start.length).map Char.toLower == start.map Char.toLower

-- The token of a tag: a slash at the end makes it an empty element.
def tagToken (content : List Char) : Token :=
  if content.getLast? = some '/' then .emptyTag content.dropLast else .startTag content

-- A comment needs its whole opening mark; its content gives no token.
def commentTokens (content : List Char) : Option (List Token) :=
  if beginsFolded "!--".toList content then some [] else none

def literalTokens (content : List Char) : Option (List Token) :=
  if beginsFolded "![CDATA[".toList content then
    some [.literal ((content.drop 8).take (content.length - 10))]
  else none

-- Inside a tag, quotes hide the closing bracket until the same quote comes again.
def nextQuote (quote : Option Char) (c : Char) : Option Char :=
  match quote with
  | some q => if c = q then none else some q
  | none => if c = '"' ∨ c = '\'' then some c else none

-- Whether the content so far, kept backwards, ends in the given two characters.
def endsIn (c : Char) : List Char → Bool
  | a :: b :: _ => a == c && b == c
  | _ => false

def instructionTokens (content : List Char) : List Token :=
  if content.getLast? = some '?' ∧ 2 < content.length then []
  else [.fault (.unexpectedEnd "XmlDecl")]

-- Read on in a mode, with the characters of the current piece kept backwards.
def scan : Mode → List Char → List Char → List Token
  | .text, acc, [] => textTokens acc.reverse
  | .opening, _, [] => []
  | .declaration, _, [] => [.fault (.unexpectedEnd "Bang")]
  | .comment, _, [] => [.fault (.unexpectedEnd "Comment")]
  | .literal, _, [] => [.fault (.unexpectedEnd "CData")]
  | .doctype _, _, [] => [.fault (.unexpectedEnd "DOCTYPE")]
  | .instruction, acc, [] => instructionTokens acc.reverse
  | .endTag, acc, [] => [.endTag acc.reverse]
  | .tag _, _, [] => [.fault (.unexpectedEnd "Element")]
  | .text, acc, c :: cs =>
    if c = '<' then textTokens acc.reverse ++ scan .opening [] cs
    else scan .text (c :: acc) cs
  | .opening, _, c :: cs =>
    if c = '!' then scan .declaration ['!'] cs
    else if c = '/' then scan .endTag [] cs
    else if c = '?' then scan .instruction ['?'] cs
    else if c = '>' then tagToken [] :: scan .text [] cs
    else scan (.tag (nextQuote none c)) [c] cs
  | .declaration, acc, c :: cs =>
    if c = '-' then scan .comment (c :: acc) cs
    else if c = '[' then scan .literal (c :: acc) cs
    else if c = 'D' ∨ c = 'd' then scan (.doctype 0) (c :: acc) cs
    else [.fault (.badDeclaration (leadByte c))]
  | .comment, acc, c :: cs =>
    if c = '>' ∧ endsIn '-' acc ∧ 5 ≤ acc.length then
      match commentTokens acc.reverse with
      | some tokens => tokens ++ scan .text [] cs
      | none => [.fault (.unexpectedEnd "Comment")]
    else scan .comment (c :: acc) cs
  | .literal, acc, c :: cs =>
    if c = '>' ∧ endsIn ']' acc then
      match literalTokens acc.reverse with
      | some tokens => tokens ++ scan .text [] cs
      | none => [.fault (.unexpectedEnd "CData")]
    else scan .literal (c :: acc) cs
  | .doctype depth, acc, c :: cs =>
    if c = '>' then
      if depth = 0 then
        if !beginsFolded "!DOCTYPE".toList acc.reverse then [.fault (.unexpectedEnd "DOCTYPE")]
        else if (acc.reverse.drop 8).all isSpace then [.fault .emptyDoctype]
        else scan .text [] cs
      else scan (.doctype (depth - 1)) (c :: acc) cs
    else if c = '<' then scan (.doctype (depth + 1)) (c :: acc) cs
    else scan (.doctype depth) (c :: acc) cs
  | .instruction, acc, c :: cs =>
    if c = '>' then
      match instructionTokens acc.reverse with
      | [] => scan .text [] cs
      | faults => faults
    else scan .instruction (c :: acc) cs
  | .endTag, acc, c :: cs =>
    if c = '>' then .endTag acc.reverse :: scan .text [] cs
    else scan .endTag (c :: acc) cs
  | .tag quote, acc, c :: cs =>
    if c = '>' ∧ quote = none then tagToken acc.reverse :: scan .text [] cs
    else scan (.tag (nextQuote quote c)) (c :: acc) cs

def byteOrderMark : Char := '\uFEFF'

-- The tokens of a document; a byte order mark in front of it is dropped.
def tokens (cs : List Char) : List Token :=
  match cs with
  | c :: rest => if c = byteOrderMark then scan .text [] rest else scan .text [] (c :: rest)
  | [] => scan .text [] []

end Datacube.Markup

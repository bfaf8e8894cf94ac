import Datacube.Json.Layout
import Datacube.Json.Value

namespace Datacube.Json

-- Plain JSON, or JSON in the layout of a catalog. In a catalog numerals may also be the words for
-- infinities and not a number.
inductive Dialect where
  | strict
  | catalog
deriving DecidableEq, Repr

-- Punctuation marks, quoted texts, and the runs of characters between them.
inductive Lexeme where
  | mark (c : Char)
  | quoted (text : List Char)
  | word (text : List Char)
deriving DecidableEq, Repr

inductive LexMode where
  | gap
  | word (acc : List Char)
  | quoted (acc : List Char)
  | escape (acc : List Char)
  | codeUnit (acc : List Char) (high : Option Nat) (digits : Nat) (unit : Nat)
  | lowSurrogate (acc : List Char) (high : Nat) (slash : Bool)

def isGap (c : Char) : Bool :=
  c == ' ' || c == '\n' || c == '\r' || c == '\t'

def isMark (c : Char) : Bool :=
  c == '\x7b' || c == '\x7d' || c == '[' || c == ']' || c == ',' || c == ':'

def hexDigit? (c : Char) : Option Nat :=
  if '0' ≤ c ∧ c ≤ '9' then some (c.toNat - '0'.toNat)
  else if 'a' ≤ c ∧ c ≤ 'f' then some (c.toNat - 'a'.toNat + 10)
  else if 'A' ≤ c ∧ c ≤ 'F' then some (c.toNat - 'A'.toNat + 10)
  else none

def shortEscape? : Char → Option Char
  | '"' => some '"'
  | '\\' => some '\\'
  | '/' => some '/'
  | 'b' => some '\x08'
  | 'f' => some '\x0c'
  | 'n' => some '\n'
  | 'r' => some '\r'
  | 't' => some '\t'
  | _ => none

-- What to do when a code unit of an escape is complete: a high surrogate waits for a low one. A
-- catalog has no surrogates.
def finishUnit (d : Dialect) (acc : List Char) (high : Option Nat) (unit : Nat) : Option LexMode :=
  match high with
  | some h =>
    if 0xDC00 ≤ unit ∧ unit ≤ 0xDFFF then
      some (.quoted (Char.ofNat (0x10000 + (h - 0xD800) * 0x400 + (unit - 0xDC00)) :: acc))
    else none
  | none =>
    if 0xD800 ≤ unit ∧ unit ≤ 0xDBFF then
      if d = .catalog then none else some (.lowSurrogate acc unit false)
    else if 0xDC00 ≤ unit ∧ unit ≤ 0xDFFF then none
    else some (.quoted (Char.ofNat unit :: acc))

def lexFrom (d : Dialect) : LexMode → List Char → Option (List Lexeme)
  | .gap, [] => some []
  | .word acc, [] => some [.word acc.reverse]
  | _, [] => none
  | .gap, c :: cs =>
    if isGap c then lexFrom d .gap cs
    else if isMark c then (lexFrom d .gap cs).map (.mark c :: ·)
    else if c = '"' then lexFrom d (.quoted []) cs
    else lexFrom d (.word [c]) cs
  | .word acc, c :: cs =>
    if isGap c then (lexFrom d .gap cs).map (.word acc.reverse :: ·)
    else if isMark c then (lexFrom d .gap cs).map fun rest => .word acc.reverse :: .mark c :: rest
    else if c = '"' then none
    else lexFrom d (.word (c :: acc)) cs
  | .quoted acc, c :: cs =>
    if c = '"' then (lexFrom d .gap cs).map (.quoted acc.reverse :: ·)
    else if c = '\\' then lexFrom d (.escape acc) cs
    else if c.toNat < 0x20 then none
    else lexFrom d (.quoted (c :: acc)) cs
  | .escape acc, c :: cs =>
    if c = 'u' then lexFrom d (.codeUnit acc none 0 0) cs
    else
      match shortEscape? c with
      | some e => lexFrom d (.quoted (e :: acc)) cs
      | none => none
  | .codeUnit acc high digits unit, c :: cs =>
    match hexDigit? c with
    | none => none
    | some n =>
      if digits = 3 then
        match finishUnit d acc high (16 * unit + n) with
        | some mode => lexFrom d mode cs
        | none => none
      else lexFrom d (.codeUnit acc high (digits + 1) (16 * unit + n)) cs
  | .lowSurrogate acc high slash, c :: cs =>
    if c = '\\' ∧ !slash then lexFrom d (.lowSurrogate acc high true) cs
    else if c = 'u' ∧ slash then lexFrom d (.codeUnit acc (some high) 0 0) cs
    else none

-- Whole digits without a needless zero in front.
def isWhole : List Char → Bool
  | ['0'] => true
  | c :: cs => Number.isDigit c && c != '0' && cs.all Number.isDigit
  | [] => false

-- A numeral: a possible minus, whole digits, and possibly a fraction and a power of ten.
def isNumeral (cs : List Char) : Bool :=
  let body := match cs with
    | '-' :: rest => rest
    | rest => rest
  let whole := body.takeWhile Number.isDigit
  let rest := body.dropWhile Number.isDigit
  let power := match rest with
    | '.' :: fraction =>
      if (fraction.takeWhile Number.isDigit).isEmpty then none
      else some (fraction.dropWhile Number.isDigit)
    | other => some other
  isWhole whole && power.any fun p => (Number.parsePower p).isSome

-- Outside of a catalog a numeral has to be in the range of doubles.
def isAccepted (d : Dialect) (cs : List Char) : Bool :=
  match d with
  | .strict => isNumeral cs && (Number.parseFloat (String.ofList cs)).any (·.isFinite)
  | .catalog => isNumeral cs || (specialFloat? (String.ofList cs)).isSome

def ofWord (d : Dialect) (cs : List Char) : Option Json :=
  match String.ofList cs with
  | "null" => some .null
  | "true" => some (.bool true)
  | "false" => some (.bool false)
  | text => if isAccepted d cs then some (.number text) else none

mutual

-- A value and the lexemes behind it. A value takes at least one lexeme, so the number of lexemes
-- bounds the depth.
def readValue (d : Dialect) : Nat → List Lexeme → Option (Json × List Lexeme)
  | 0, _ => none
  | _ + 1, .word cs :: rest => (ofWord d cs).map fun v => (v, rest)
  | _ + 1, .quoted cs :: rest => some (.string (String.ofList cs), rest)
  | fuel + 1, .mark c :: rest =>
    if c = '[' then
      match rest with
      | .mark ']' :: rest => some (.array [], rest)
      | rest => (readItems d fuel rest).map fun (items, rest) => (.array items, rest)
    else if c = '\x7b' then
      match rest with
      | .mark '\x7d' :: rest => some (.object [], rest)
      | rest => (readMembers d fuel rest).map fun (members, rest) => (.object members, rest)
    else none
  | _ + 1, [] => none

def readItems (d : Dialect) : Nat → List Lexeme → Option (List Json × List Lexeme)
  | 0, _ => none
  | fuel + 1, ls => do
    let (item, rest) ← readValue d fuel ls
    match rest with
    | .mark ',' :: rest =>
      let (items, rest) ← readItems d fuel rest
      some (item :: items, rest)
    | .mark ']' :: rest => some ([item], rest)
    | _ => none

def readMembers (d : Dialect) : Nat → List Lexeme → Option (List (String × Json) × List Lexeme)
  | fuel + 1, .quoted name :: .mark ':' :: ls => do
    let (value, rest) ← readValue d fuel ls
    match rest with
    | .mark ',' :: rest =>
      let (members, rest) ← readMembers d fuel rest
      some ((String.ofList name, value) :: members, rest)
    | .mark '\x7d' :: rest => some ([(String.ofList name, value)], rest)
    | _ => none
  | _, _ => none

end

-- Read a text that holds one value and nothing else.
def parse? (d : Dialect) (text : String) : Option Json := do
  let cs ← match d with
    | .strict => some text.toList
    | .catalog => plain? text.toList
  let lexemes ← lexFrom d .gap cs
  match ← readValue d (lexemes.length + 1) lexemes with
  | (value, []) => some value
  | _ => none

end Datacube.Json

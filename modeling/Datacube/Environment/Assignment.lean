import Datacube.Environment.Basic
import Datacube.Text.Alphanumeric
import Datacube.Text.Blank
import Datacube.Text.Pieces

-- Files that set variables, one `NAME=value` to a line. A line may start with `export`, comments
-- follow a number sign, and quotes let a value run over several lines.
namespace Datacube.Environment

-- Where in a line the reader is.
inductive LineState where
  | bare
  | blank
  | bareEscape
  | single
  | singleEscape
  | double
  | doubleEscape
deriving DecidableEq, Repr

-- The state behind one more character; none where a comment starts.
def LineState.next? : LineState → Char → Option LineState
  | .blank, '#' => none
  | .blank, '\\' | .bare, '\\' => some .bareEscape
  | .blank, '"' | .bare, '"' => some .double
  | .blank, '\'' | .bare, '\'' => some .single
  | .blank, _ => some .bare
  | .bare, c => some (if Text.isBlank c ∧ c ≠ '\n' ∧ c ≠ '\r' then .blank else .bare)
  | .bareEscape, _ => some .bare
  | .double, '\\' => some .doubleEscape
  | .double, '"' => some .bare
  | .double, _ => some .double
  | .doubleEscape, _ => some .double
  | .single, '\\' => some .singleEscape
  | .single, '\'' => some .bare
  | .single, _ => some .single
  | .singleEscape, _ => some .single

-- What a line holds before a comment, and the state at its end; none if a comment ends it.
def readLine : LineState → List Char → List Char × Option LineState
  | state, [] => ([], some state)
  | state, c :: cs =>
    match state.next? c with
    | none => ([], none)
    | some state =>
      let (taken, last) := readLine state cs
      (c :: taken, last)

def isComment (line : List Char) : Bool :=
  (line.dropWhile Text.isBlank).head? = some '#'

-- Join lines that quotes or escapes hold together. A file that ends within one is at fault there.
def joinLines : List Char → LineState → List (List Char) → List (Option (List Char))
  | _, state, [] => if state = .bare then [] else [none]
  | earlier, state, line :: rest =>
    if earlier = [] ∧ isComment line then joinLines [] .bare rest
    else
      match readLine state line with
      | (taken, none) => some (earlier ++ taken) :: joinLines [] .bare rest
      | (taken, some .bare) => some (earlier ++ taken) :: joinLines [] .bare rest
      | (taken, some state) => joinLines (earlier ++ taken) state rest

-- The lines of a text, each with its line feed.
def linesOf (cs : List Char) : List (List Char) :=
  match Text.pieces '\n' cs with
  | [] => []
  | ps => ps.dropLast.map (· ++ ['\n']) ++ (ps.getLast?.filter (· ≠ [])).toList

-- Where in a value the reader is. A name after a dollar sign may stand between braces.
inductive ValueState where
  | bare
  | single
  | double
  | escape (quoted : Bool)
  | reference (name : List Char) (quoted : Bool)
  | braced (name : List Char) (quoted : Bool)
  | finished
deriving DecidableEq, Repr

def bareOrDouble (quoted : Bool) : ValueState :=
  if quoted then .double else .bare

def referenced (env : Environment) (name : List Char) : List Char :=
  ((env.value? (String.ofList name.reverse)).getD "").toList

-- The characters that keep their meaning behind a backslash.
def escaped? (c : Char) : Option Char :=
  if c ∈ ['\\', '\'', '"', '$', ' '] then some c
  else if c = 'n' then some '\n'
  else none

def readValue (env : Environment) : ValueState → List Char → Option (List Char)
  | .bare, [] | .finished, [] | .escape false, [] => some []
  | .reference name false, [] => some (referenced env name)
  | _, [] => none
  | .finished, c :: cs =>
    if c = ' ' ∨ c = '\t' then readValue env .finished cs
    else if c = '#' then some []
    else none
  | .escape quoted, c :: cs => do
    let c ← escaped? c
    return c :: (← readValue env (bareOrDouble quoted) cs)
  | .single, c :: cs =>
    if c = '\'' then readValue env .bare cs else do return c :: (← readValue env .single cs)
  | .reference name quoted, c :: cs =>
    if Text.isAlphanumeric c then readValue env (.reference (c :: name) quoted) cs
    else if c = '\x7b' ∧ name = [] then readValue env (.braced [] quoted) cs
    else if c = '$' then do
      return referenced env name ++ (← readValue env (.reference [] quoted) cs)
    else do
      return referenced env name ++ c :: (← readValue env (bareOrDouble quoted) cs)
  | .braced name quoted, c :: cs =>
    if c = '\x7d' then do
      return referenced env name ++ (← readValue env (bareOrDouble quoted) cs)
    else readValue env (.braced (c :: name) quoted) cs
  | .double, c :: cs =>
    if c = '$' then readValue env (.reference [] true) cs
    else if c = '"' then readValue env .bare cs
    else if c = '\\' then readValue env (.escape true) cs
    else do return c :: (← readValue env .double cs)
  | .bare, c :: cs =>
    if c = '$' then readValue env (.reference [] false) cs
    else if c = '\'' then readValue env .single cs
    else if c = '"' then readValue env .double cs
    else if c = '\\' then readValue env (.escape false) cs
    else if c = ' ' ∨ c = '\t' then readValue env .finished cs
    else do return c :: (← readValue env .bare cs)

def isNameStart (c : Char) : Bool :=
  c.isAlpha || c == '_'

def isNamePart (c : Char) : Bool :=
  c.isAlphanum || c == '_' || c == '.'

-- A name and what follows it and the blanks behind it.
def readName (cs : List Char) : Option (List Char × List Char) :=
  if cs.head?.any isNameStart then
    some (cs.takeWhile isNamePart, (cs.dropWhile isNamePart).dropWhile Text.isBlank)
  else none

def afterEquals : List Char → Option (List Char)
  | '=' :: cs => some cs
  | _ => none

-- The name that a line sets and the text of its value.
def readTarget (cs : List Char) : Option (List Char × List Char) := do
  let (name, rest) ← readName cs
  match afterEquals rest with
  | some value => some (name, value)
  | none =>
    if name = "export".toList then
      let (name, rest) ← readName rest
      return (name, ← afterEquals rest)
    else none

-- Carry out one line; none if it is not an assignment.
def assignLine (env : Environment) (line : List Char) : Option Environment :=
  let line := Text.trimChars line
  if line = [] ∨ isComment line then some env
  else do
    let (name, rest) ← readTarget line
    let rest := rest.dropWhile Text.isBlank
    let value ← if rest = [] ∨ isComment rest then some [] else readValue env .bare rest
    return env.define (String.ofList name) (String.ofList value)

-- Carry out lines up to the first that is at fault.
def assignLines (env : Environment) : List (Option (List Char)) → Environment
  | some line :: rest =>
    match assignLine env line with
    | some env => assignLines env rest
    | none => env
  | _ => env

-- A text without the mark of byte order in front of it.
def withoutMark : List Char → List Char
  | '\uFEFF' :: cs => cs
  | cs => cs

-- Set the variables that a file assigns and that are not set yet.
def assign (env : Environment) (file : String) : Environment :=
  assignLines env (joinLines [] .bare (linesOf (withoutMark file.toList)))

end Datacube.Environment

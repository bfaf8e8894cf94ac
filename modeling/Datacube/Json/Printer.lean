import Datacube.Json.Value

namespace Datacube.Json

private def hex4 (n : Nat) : List Char :=
  let digits := Nat.toDigits 16 n
  List.replicate (4 - digits.length) '0' ++ digits

def quotedChar (c : Char) : List Char :=
  match c with
  | '"' => ['\\', '"']
  | '\\' => ['\\', '\\']
  | '\n' => ['\\', 'n']
  | '\r' => ['\\', 'r']
  | '\t' => ['\\', 't']
  | '\x08' => ['\\', 'b']
  | '\x0c' => ['\\', 'f']
  | c => if c.toNat < 0x20 then ['\\', 'u'] ++ hex4 c.toNat else [c]

def quotedText (s : String) : String :=
  String.ofList (['"'] ++ s.toList.flatMap quotedChar ++ ['"'])

private def indent (depth : Nat) : String :=
  String.ofList (List.replicate (2 * depth) ' ')

mutual

-- On one line, without blanks.
def compact : Json → String
  | null => "null"
  | bool value => if value then "true" else "false"
  | number text => text
  | string text => quotedText text
  | array items => "[" ++ ",".intercalate (compactItems items) ++ "]"
  | object members => "\x7b" ++ ",".intercalate (compactMembers members) ++ "\x7d"

def compactItems : List Json → List String
  | [] => []
  | item :: items => compact item :: compactItems items

def compactMembers : List (String × Json) → List String
  | [] => []
  | (name, value) :: members => (quotedText name ++ ":" ++ compact value) :: compactMembers members

end

mutual

-- One item or member to a line, indented by two blanks for each level.
def pretty (depth : Nat) : Json → String
  | null => "null"
  | bool value => if value then "true" else "false"
  | number text => text
  | string text => quotedText text
  | array [] => "[]"
  | array items =>
    "[\n" ++ ",\n".intercalate (prettyItems (depth + 1) items) ++ "\n" ++ indent depth ++ "]"
  | object [] => "\x7b\x7d"
  | object members =>
    "\x7b\n" ++ ",\n".intercalate (prettyMembers (depth + 1) members) ++ "\n" ++ indent depth ++
      "\x7d"

def prettyItems (depth : Nat) : List Json → List String
  | [] => []
  | item :: items => (indent depth ++ pretty depth item) :: prettyItems depth items

def prettyMembers (depth : Nat) : List (String × Json) → List String
  | [] => []
  | (name, value) :: members =>
    (indent depth ++ quotedText name ++ ": " ++ pretty depth value) :: prettyMembers depth members

end

end Datacube.Json

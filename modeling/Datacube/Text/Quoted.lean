import Datacube.Text.Hidden

namespace Datacube.Text

private def hexDigits (n : Nat) : List Char :=
  Nat.toDigits 16 n

-- One character inside double quotes. Quote, backslash and the named controls have a short escape,
-- other characters that are not shown as they are have their code point between braces.
def quoteChar (c : Char) : List Char :=
  match c with
  | '"' => ['\\', '"']
  | '\\' => ['\\', '\\']
  | '\n' => ['\\', 'n']
  | '\r' => ['\\', 'r']
  | '\t' => ['\\', 't']
  | '\x00' => ['\\', '0']
  | c => if isHidden c then ['\\', 'u', '\x7b'] ++ hexDigits c.toNat ++ ['\x7d'] else [c]

def quote (s : String) : String :=
  String.ofList (['"'] ++ s.toList.flatMap quoteChar ++ ['"'])

-- A list of quoted texts between square brackets.
def quoteList (texts : List String) : String :=
  "[" ++ ", ".intercalate (texts.map quote) ++ "]"

end Datacube.Text

namespace Datacube.Number

def digitValue (c : Char) : Nat :=
  c.toNat - '0'.toNat

def isDigit (c : Char) : Bool :=
  '0' ≤ c && c ≤ '9'

def twoTo (n : Nat) : Nat :=
  Nat.pow 2 n

def tenTo (n : Nat) : Nat :=
  Nat.pow 10 n

-- The number whose decimal digits are `cs`, the most significant first.
def ofDigits (cs : List Char) : Nat :=
  cs.foldl (fun n c => 10 * n + digitValue c) 0

def natText (n : Nat) : String :=
  String.ofList (Nat.toDigits 10 n)

def intText : Int → String
  | .ofNat n => natText n
  | .negSucc n => "-" ++ natText (n + 1)

-- A possible sign and what follows it; `true` for a minus.
def takeSign : List Char → Bool × List Char
  | '-' :: cs => (true, cs)
  | '+' :: cs => (false, cs)
  | cs => (false, cs)

def signed (negative : Bool) (n : Nat) : Int :=
  if negative then -(n : Int) else n

-- An integer of any size: a possible sign, a digit, then digits and underscores that are skipped.
def parseBig (s : String) : Option Int :=
  match takeSign s.toList with
  | (negative, c :: cs) =>
    if isDigit c && cs.all (fun d => isDigit d || d = '_') then
      some (signed negative (ofDigits (c :: cs.filter isDigit)))
    else none
  | (_, []) => none

-- Digits only, at least one.
def parseDigits (cs : List Char) : Option Nat :=
  if cs.isEmpty || !cs.all isDigit then none else some (ofDigits cs)

def int64Min : Int := -9223372036854775808

def int64Max : Int := 9223372036854775807

def uint64Max : Nat := 18446744073709551615

-- A signed integer of 64 bits: a possible sign and digits; a value out of range is refused.
def parseInt64 (s : String) : Option Int := do
  let (negative, digits) := takeSign s.toList
  let n := signed negative (← parseDigits digits)
  if int64Min ≤ n ∧ n ≤ int64Max then some n else none

-- An unsigned integer of 64 bits: a possible plus and digits.
def parseUInt64 (s : String) : Option Nat := do
  let digits := match s.toList with
    | '+' :: cs => cs
    | cs => cs
  let n ← parseDigits digits
  if n ≤ uint64Max then some n else none

end Datacube.Number

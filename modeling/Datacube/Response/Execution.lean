import Datacube.Error
import Datacube.Number.Integer

namespace Datacube.Response

-- Bytes that are not text: where, and how many of them are in the way unless the text only ends too
-- early.
structure EncodingFault where
  index : Nat
  length : Option Nat
deriving DecidableEq, Repr

def EncodingFault.message (f : EncodingFault) : String :=
  match f.length with
  | some n =>
    "invalid utf-8 sequence of " ++ Number.natText n ++ " bytes from index " ++
      Number.natText f.index
  | none => "incomplete utf-8 byte sequence from index " ++ Number.natText f.index

-- The number of bytes of a character by its first byte, what that byte gives of it, and the range
-- of its second byte; none for a byte that starts no character.
def leadInfo? (b : Nat) : Option (Nat × Nat × Nat × Nat) :=
  if 0xC2 ≤ b ∧ b ≤ 0xDF then some (2, b - 0xC0, 0x80, 0xBF)
  else if b = 0xE0 then some (3, 0, 0xA0, 0xBF)
  else if b = 0xED then some (3, 0xD, 0x80, 0x9F)
  else if 0xE1 ≤ b ∧ b ≤ 0xEF then some (3, b - 0xE0, 0x80, 0xBF)
  else if b = 0xF0 then some (4, 0, 0x90, 0xBF)
  else if b = 0xF4 then some (4, 4, 0x80, 0x8F)
  else if 0xF1 ≤ b ∧ b ≤ 0xF3 then some (4, b - 0xF0, 0x80, 0xBF)
  else none

-- A character that is still being read: where it starts, how many bytes of it are read and are to
-- come, what they give, and the range of the next byte.
structure PartialChar where
  index : Nat
  read : Nat
  left : Nat
  value : Nat
  least : Nat
  greatest : Nat

def decodeFrom : Nat → Option PartialChar → List Nat → Except EncodingFault (List Char)
  | _, none, [] => .ok []
  | _, some p, [] => .error ⟨p.index, none⟩
  | i, none, b :: bs =>
    if b < 0x80 then do
      let rest ← decodeFrom (i + 1) none bs
      return Char.ofNat b :: rest
    else
      match leadInfo? b with
      | none => .error ⟨i, some 1⟩
      | some (width, value, least, greatest) =>
        decodeFrom (i + 1) (some ⟨i, 1, width - 1, value, least, greatest⟩) bs
  | i, some p, b :: bs =>
    if p.least ≤ b ∧ b ≤ p.greatest then
      let value := p.value * 0x40 + (b - 0x80)
      if p.left = 1 then do
        let rest ← decodeFrom (i + 1) none bs
        return Char.ofNat value :: rest
      else decodeFrom (i + 1) (some ⟨p.index, p.read + 1, p.left - 1, value, 0x80, 0xBF⟩) bs
    else .error ⟨p.index, some p.read⟩

-- The text that bytes encode.
def decodeText (bytes : List Nat) : Except EncodingFault String := do
  return String.ofList (← decodeFrom 0 none bytes)

-- What an array engine sends back: text, or bytes that may or may not be text.
inductive Payload where
  | text (content : String)
  | bytes (content : List Nat)
deriving DecidableEq, Repr

def Payload.toText : Payload → Result String
  | text content => .ok content
  | bytes content =>
    match decodeText content with
    | .ok s => .ok s
    | .error fault => .error (.queryExecution ("result is not text: " ++ fault.message))

-- The result of a query, with its spatial domain if that is reported.
structure QueryResult where
  payload : Payload
  sdom : Option String := none
deriving DecidableEq, Repr

-- Results by query, and one for all other queries.
structure Executor where
  results : List (String × QueryResult) := []
  fallback : Option QueryResult := none

def Executor.execute (x : Executor) (query : String) : Result QueryResult :=
  match x.results.lookup query <|> x.fallback with
  | some result => .ok result
  | none => .error (.queryExecution ("no result for query: " ++ query))

end Datacube.Response

import Datacube.Number.Integer

namespace Datacube

-- An instant: seconds since the start of 1970, and nanoseconds, which reach past one second inside
-- a leap second. So a leap second comes after its minute's last second and before the next minute.
structure Timestamp where
  seconds : Int
  nanoseconds : Nat
deriving DecidableEq, Repr

namespace Timestamp

def before (a b : Timestamp) : Bool :=
  a.seconds < b.seconds || (a.seconds == b.seconds && a.nanoseconds < b.nanoseconds)

def isLeapYear (year : Nat) : Bool :=
  year % 4 == 0 && (year % 100 != 0 || year % 400 == 0)

def monthLength (year month : Nat) : Nat :=
  if month = 2 then (if isLeapYear year then 29 else 28)
  else if month = 4 ∨ month = 6 ∨ month = 9 ∨ month = 11 then 30
  else 31

-- Days from the start of year 0 to the start of a year, and of a month within it.
def daysBeforeYear (year : Nat) : Nat :=
  if year = 0 then 0
  else
    let last := year - 1
    365 * year + last / 4 - last / 100 + last / 400 + 1

def daysBeforeMonth (year month : Nat) : Nat :=
  (List.range (month - 1)).foldl (fun days m => days + monthLength year (m + 1)) 0

def daysSince1970 (year month day : Nat) : Int :=
  (daysBeforeYear year + daysBeforeMonth year month + (day - 1) : Nat) - (daysBeforeYear 1970 : Nat)

-- Exactly `count` digits.
def takeNumber (count : Nat) (cs : List Char) : Option (Nat × List Char) :=
  (Number.parseDigits (cs.take count)).bind fun n =>
    if (cs.take count).length = count then some (n, cs.drop count) else none

def takeChar (allowed : List Char) : List Char → Option (List Char)
  | c :: cs => if c ∈ allowed then some cs else none
  | [] => none

-- A possible fraction of a second in nanoseconds; digits past the ninth do not count.
def takeFraction : List Char → Option (Nat × List Char)
  | '.' :: cs =>
    let digits := cs.takeWhile Number.isDigit
    if digits = [] then none
    else
      let kept := digits.take 9
      some (Number.ofDigits kept * Number.tenTo (9 - kept.length), cs.dropWhile Number.isDigit)
  | cs => some (0, cs)

-- The distance from universal time in seconds, up to the end of the text.
def parseOffset : List Char → Option Int
  | ['Z'] | ['z'] => some 0
  | sign :: cs => do
    let negative ← match sign with
      | '+' => some false
      | '-' => some true
      | '−' => some true
      | _ => none
    let (hours, cs) ← takeNumber 2 cs
    let cs ← takeChar [':'] cs
    let (minutes, cs) ← takeNumber 2 cs
    if cs = [] ∧ hours ≤ 23 ∧ minutes ≤ 59 then
      some (Number.signed negative (60 * (60 * hours + minutes)))
    else none
  | [] => none

-- Read a date, a time of day and an offset in the form of RFC 3339.
def parse? (text : String) : Option Timestamp := do
  let (year, cs) ← takeNumber 4 text.toList
  let cs ← takeChar ['-'] cs
  let (month, cs) ← takeNumber 2 cs
  let cs ← takeChar ['-'] cs
  let (day, cs) ← takeNumber 2 cs
  let cs ← takeChar ['T', 't', ' '] cs
  let (hour, cs) ← takeNumber 2 cs
  let cs ← takeChar [':'] cs
  let (minute, cs) ← takeNumber 2 cs
  let cs ← takeChar [':'] cs
  let (second, cs) ← takeNumber 2 cs
  let (fraction, cs) ← takeFraction cs
  let offset ← parseOffset cs
  if 1 ≤ month ∧ month ≤ 12 ∧ 1 ≤ day ∧ day ≤ monthLength year month ∧
      hour ≤ 23 ∧ minute ≤ 59 ∧ second ≤ 60 then
    let days := daysSince1970 year month day
    let ofDay : Int := 3600 * hour + 60 * minute + min second 59
    some ⟨86400 * days + ofDay - offset, fraction + (if second = 60 then 1000000000 else 0)⟩
  else none

end Timestamp

end Datacube

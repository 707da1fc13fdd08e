import Tutor.Number.Power
import Tutor.Text.Blank
import Tutor.Text.Letter

/-!
# Points in time

A point in time is a count of seconds since the start of 1970 in UTC, with a part of a second in
nanoseconds. A leap second is the second before it, with a part of one second or more. Times are
written in the profile of RFC 3339, in UTC, with no digits, three, six or nine for the part of a
second; they are read from that form with some freedom in blanks, digits and offsets.
-/

namespace Tutor

open Tutor.Text

/-- A point in time. -/
structure Timestamp where
  /-- Whole seconds since the start of 1970. -/
  seconds : Int
  /-- Nanoseconds since that second. -/
  nanos : Nat
deriving DecidableEq, Repr

namespace Timestamp

/-! ### The calendar -/

/-- A day of the proleptic Gregorian calendar. -/
structure Day where
  /-- The year. -/
  year : Int
  /-- The month, from one. -/
  month : Nat
  /-- The day of the month, from one. -/
  day : Nat
deriving DecidableEq, Repr

/-- Whether a year has a twenty-ninth of February. -/
def isLeapYear (y : Int) : Bool := y % 4 == 0 && (y % 100 != 0 || y % 400 == 0)

/-- The number of days of a month. -/
def monthLength (y : Int) (m : Nat) : Nat :=
  if m == 2 then (if isLeapYear y then 29 else 28)
  else if m == 4 || m == 6 || m == 9 || m == 11 then 30
  else 31

/-- Days from the start of 1970 to a day. The year is taken to begin in March, so that its leap day
comes last. -/
def Day.number (d : Day) : Int :=
  let y := if d.month ≤ 2 then d.year - 1 else d.year
  let era := y / 400
  let yearOfEra := y - era * 400
  let monthFromMarch : Int := ((d.month + 9) % 12 : Nat)
  let dayOfYear := (153 * monthFromMarch + 2) / 5 + d.day - 1
  let dayOfEra := yearOfEra * 365 + yearOfEra / 4 - yearOfEra / 100 + dayOfYear
  era * 146097 + dayOfEra - 719468

/-- The day at a distance from the start of 1970. -/
def Day.ofNumber (n : Int) : Day :=
  let z := n + 719468
  let era := z / 146097
  let dayOfEra := z - era * 146097
  let yearOfEra := (dayOfEra - dayOfEra / 1460 + dayOfEra / 36524 - dayOfEra / 146096) / 365
  let dayOfYear := dayOfEra - (365 * yearOfEra + yearOfEra / 4 - yearOfEra / 100)
  let monthFromMarch := (5 * dayOfYear + 2) / 153
  let day := (dayOfYear - (153 * monthFromMarch + 2) / 5 + 1).toNat
  let month := if monthFromMarch < 10 then monthFromMarch + 3 else monthFromMarch - 9
  let year := yearOfEra + era * 400
  { year := if month ≤ 2 then year + 1 else year, month := month.toNat, day }

/-! ### Writing -/

/-- A year in four digits, with a sign and as many as it takes where four do not hold it. -/
def yearText (y : Int) : List Char :=
  if 0 ≤ y ∧ y ≤ 9999 then padded 4 y.toNat
  else (if y < 0 then '-' else '+') :: padded 4 y.natAbs

/-- The part of a second: nothing, or three, six or nine digits after a point. -/
def fractionText (nanos : Nat) : List Char :=
  if nanos == 0 then []
  else if nanos % 1000000 == 0 then '.' :: padded 3 (nanos / 1000000)
  else if nanos % 1000 == 0 then '.' :: padded 6 (nanos / 1000)
  else '.' :: padded 9 nanos

/-- The written form, in UTC. -/
def render (t : Timestamp) : String :=
  let day := Day.ofNumber (t.seconds / 86400)
  let ofDay := (t.seconds % 86400).toNat
  let leap := t.nanos ≥ 1000000000
  let second := ofDay % 60 + (if leap then 1 else 0)
  let nanos := if leap then t.nanos - 1000000000 else t.nanos
  String.ofList <|
    yearText day.year ++ '-' :: padded 2 day.month ++ '-' :: padded 2 day.day
      ++ 'T' :: padded 2 (ofDay / 3600) ++ ':' :: padded 2 (ofDay / 60 % 60)
      ++ ':' :: padded 2 second ++ fractionText nanos ++ ['Z']

/-! ### Reading

Each reader takes what it reads from the front and gives back the rest. -/

/-- Drops blank characters. -/
def skipBlanks (cs : List Char) : List Char := cs.dropWhile isBlank

/-- One to `most` digits. -/
def digits? (most : Nat) (cs : List Char) : Option (Nat × List Char) :=
  let ds := (cs.takeWhile Char.isDigit).take most
  if ds.isEmpty then none else (numeral? 10 ds).map fun n => (n, cs.drop ds.length)

/-- Blank characters, and then a number of at most two digits within bounds. -/
def pair? (low high : Nat) (cs : List Char) : Option (Nat × List Char) := do
  let (n, rest) ← digits? 2 (skipBlanks cs)
  if low ≤ n ∧ n ≤ high then some (n, rest) else none

/-- A year: up to four digits, or a sign and any number of them. -/
def year? (cs : List Char) : Option (Int × List Char) :=
  match skipBlanks cs with
  | '-' :: rest => (digits? rest.length rest).map fun (n, r) => (-(n : Int), r)
  | '+' :: rest => (digits? rest.length rest).map fun (n, r) => ((n : Int), r)
  | rest => (digits? 4 rest).map fun (n, r) => ((n : Int), r)

/-- A character, after blank ones. -/
def mark? (c : Char) (cs : List Char) : Option (List Char) :=
  match skipBlanks cs with
  | d :: rest => if d = c then some rest else none
  | [] => none

/-- The part of a second in nanoseconds, which may be left out. Digits beyond the ninth count for
nothing. -/
def fraction? : List Char → Option (Nat × List Char)
  | '.' :: rest => do
    let ds := rest.takeWhile Char.isDigit
    if ds.isEmpty then none
    else
      let n ← numeral? 10 (ds.take 9)
      some (n * Number.tenTo (9 - (ds.take 9).length), rest.drop ds.length)
  | cs => some (0, cs)

/-- Two digits that are both there. -/
def bothDigits? : List Char → Option (Nat × List Char)
  | a :: b :: rest => do return ((← digit? a) * 10 + (← digit? b), rest)
  | _ => none

/-- The distance from UTC in seconds. -/
def offset? (cs : List Char) : Option (Int × List Char) :=
  match cs with
  | 'Z' :: rest | 'z' :: rest => some (0, rest)
  | sign :: rest => do
    if beginsWith ['u', 't', 'c'] cs then return (0, cs.drop 3)
    let east ←
      if sign == '+' then some true
      else if sign == '-' || sign == '\u2212' then some false
      else none
    let (hours, rest) ← bothDigits? rest
    let (minutes, rest) ← bothDigits? (rest.dropWhile fun c => c == ':' || isBlank c)
    if minutes ≥ 60 ∨ hours ≥ 24 then none
    else
      let distance : Int := hours * 3600 + minutes * 60
      some (if east then distance else -distance, rest)
  | [] => none

/-- The years that can be written. -/
def isYear (y : Int) : Bool := -262143 ≤ y && y ≤ 262142

/-- A point in time, on characters. -/
def read? (cs : List Char) : Option Timestamp := do
  let (year, cs) ← year? cs
  let (month, cs) ← pair? 1 12 (← mark? '-' cs)
  let (day, cs) ← pair? 1 31 (← mark? '-' cs)
  if !isYear year || day > monthLength year month then none
  let cs ← match cs with
    | 'T' :: rest | 't' :: rest | ' ' :: rest => some rest
    | _ => none
  let (hour, cs) ← pair? 0 23 cs
  let (minute, cs) ← pair? 0 59 (← mark? ':' cs)
  let (second, cs) ← pair? 0 60 (← mark? ':' cs)
  let (nanos, cs) ← fraction? cs
  let (offset, cs) ← offset? (skipBlanks cs)
  if !(skipBlanks cs).isEmpty then none
  let ofDay : Int := hour * 3600 + minute * 60 + min second 59
  return {
    seconds := (Day.mk year month day).number * 86400 + ofDay - offset
    nanos := if second == 60 then nanos + 1000000000 else nanos }

/-- A point in time from its written form. -/
def ofText? (s : String) : Option Timestamp := read? s.toList

end Timestamp

end Tutor

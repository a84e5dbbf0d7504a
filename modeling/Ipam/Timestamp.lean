import Ipam.Text.Blank
import Ipam.Text.Decimal

/-!
# Points in time

The time of the last status write is kept as an instant and shown in UTC.

* `Timestamp` — a second of UTC and the nanoseconds within it.
* `Timestamp.parse?` — reads a date, a time and an offset in the manner of RFC 3339, a little more
  freely: fields may have fewer digits and blanks around them, the offset may be `UTC`, and blanks
  may follow it.
* `Timestamp.render` — writes an instant with as many fraction digits as it needs, in threes.
* `Timestamp.renderSeconds` — writes it without a fraction.

Seconds may be numbered 60; such a leap second stays one when it is written again.
-/

namespace Ipam

open Text

/-- An instant. -/
structure Timestamp where
  /-- Whole seconds since the start of 1970 in UTC. -/
  seconds : Int
  /-- Nanoseconds within the second; those of a leap second lie above a whole second. -/
  nanos : Nat
deriving DecidableEq

namespace Timestamp

/-! ## The calendar -/

/-- The number of days from the start of 1970 to a date of the Gregorian calendar.  Years are
counted from March, so that the leap day comes last. -/
def daysOfDate (year : Int) (month day : Nat) : Int :=
  let y := if month ≤ 2 then year - 1 else year
  let era := y.fdiv 400
  let yearOfEra := (y - era * 400).toNat
  let dayOfYear := (153 * ((month + 9) % 12) + 2) / 5 + day - 1
  let dayOfEra := yearOfEra * 365 + yearOfEra / 4 - yearOfEra / 100 + dayOfYear
  era * 146097 + dayOfEra - 719468

/-- The date, as year, month and day, of a number of days from the start of 1970. -/
def dateOfDays (days : Int) : Int × Nat × Nat :=
  let shifted := days + 719468
  let era := shifted.fdiv 146097
  let dayOfEra := (shifted - era * 146097).toNat
  let yearOfEra :=
    (dayOfEra - dayOfEra / 1460 + dayOfEra / 36524 - dayOfEra / 146096) / 365
  let dayOfYear := dayOfEra - (365 * yearOfEra + yearOfEra / 4 - yearOfEra / 100)
  let monthFromMarch := (5 * dayOfYear + 2) / 153
  let day := dayOfYear - (153 * monthFromMarch + 2) / 5 + 1
  let month := if monthFromMarch < 10 then monthFromMarch + 3 else monthFromMarch - 9
  let year := (yearOfEra : Int) + era * 400
  (if month ≤ 2 then year + 1 else year, month, day)

/-- Whether a date exists. -/
def isDate (year : Int) (month day : Nat) : Bool :=
  1 ≤ month && month ≤ 12 && 1 ≤ day && dateOfDays (daysOfDate year month day) == (year, month, day)

/-! ## Reading -/

/-- Up to `most` digits and the text after them; there must be one. -/
def takeNumber? (most : Nat) (cs : List Char) : Option (Nat × List Char) := do
  let ds := (cs.take most).takeWhile isDigit
  return (← natOfDigits? ds, cs.drop ds.length)

/-- A field of at most two digits, blanks before it allowed. -/
def takeField? (cs : List Char) : Option (Nat × List Char) :=
  takeNumber? 2 (trimStart cs)

/-- A year: up to four digits, or any number of digits after a sign. -/
def takeYear? (cs : List Char) : Option (Int × List Char) :=
  match trimStart cs with
  | '-' :: rest => (takeNumber? rest.length rest).map fun (n, rest) => (-(n : Int), rest)
  | '+' :: rest => (takeNumber? rest.length rest).map fun (n, rest) => ((n : Int), rest)
  | cs => (takeNumber? 4 cs).map fun (n, rest) => ((n : Int), rest)

/-- The text after a mark, blanks before it allowed. -/
def takeMark? (mark : Char) (cs : List Char) : Option (List Char) :=
  match trimStart cs with
  | c :: rest => if c = mark then some rest else none
  | [] => none

/-- A fraction of a second in nanoseconds, zero when there is none; digits after the ninth do not
count. -/
def takeFraction? : List Char → Option (Nat × List Char)
  | '.' :: rest => do
    let ds := rest.takeWhile isDigit
    if ds.isEmpty then none
    let n ← natOfDigits? ((ds ++ List.replicate 9 '0').take 9)
    return (n, rest.drop ds.length)
  | cs => some (0, cs)

/-- The offset after its sign, in seconds. -/
def takeOffsetDigits? (cs : List Char) : Option (Nat × List Char) :=
  match cs with
  | a :: b :: rest => do
    let hours := 10 * (← digit? a) + (← digit? b)
    match rest.dropWhile fun c => c = ':' || isBlank c with
    | c :: d :: rest =>
      let tens ← digit? c
      let minutes := 10 * tens + (← digit? d)
      if 6 ≤ tens ∨ 24 ≤ hours then none
      return (hours * 3600 + minutes * 60, rest)
    | _ => none
  | _ => none

/-- An offset from UTC in seconds. -/
def takeOffset? : List Char → Option (Int × List Char)
  | '+' :: rest => (takeOffsetDigits? rest).map fun (n, rest) => ((n : Int), rest)
  | '-' :: rest => (takeOffsetDigits? rest).map fun (n, rest) => (-(n : Int), rest)
  | '\u2212' :: rest => (takeOffsetDigits? rest).map fun (n, rest) => (-(n : Int), rest)
  | a :: b :: c :: rest =>
    if [a, b, c].map Char.toUpper = ['U', 'T', 'C'] then some (0, rest)
    else if a = 'Z' ∨ a = 'z' then some (0, b :: c :: rest)
    else none
  | a :: rest => if a = 'Z' ∨ a = 'z' then some (0, rest) else none
  | [] => none

/-- The text after the character between a date and a time. -/
def takeJoint? : List Char → Option (List Char)
  | c :: rest => if c = 'T' ∨ c = 't' ∨ c = ' ' then some rest else none
  | [] => none

/-- The years that a timestamp may have. -/
def isYear (year : Int) : Bool :=
  -262143 ≤ year && year ≤ 262142

/-- Reads a timestamp.  Its year must be one that a timestamp may have both in its own offset and in
UTC. -/
def parse? (s : String) : Option Timestamp := do
  let (year, cs) ← takeYear? s.toList
  let (month, cs) ← takeField? (← takeMark? '-' cs)
  let (day, cs) ← takeField? (← takeMark? '-' cs)
  let (hour, cs) ← takeField? (← takeJoint? cs)
  let (minute, cs) ← takeField? (← takeMark? ':' cs)
  let (second, cs) ← takeField? (← takeMark? ':' cs)
  let (nanos, cs) ← takeFraction? cs
  let (offset, cs) ← takeOffset? (trimStart cs)
  if !cs.all isBlank ∨ !isYear year ∨ !isDate year month day then none
  if 24 ≤ hour ∨ 60 ≤ minute ∨ 61 ≤ second then none
  let timeOfDay := hour * 3600 + minute * 60 + min second 59
  let seconds := daysOfDate year month day * 86400 + timeOfDay - offset
  if !isYear (dateOfDays (seconds.fdiv 86400)).1 then none
  return { seconds, nanos := if second = 60 then 1000000000 + nanos else nanos }

/-! ## Writing -/

/-- A year: four digits, or at least four after a sign when they do not suffice. -/
def renderYear (year : Int) : List Char :=
  if 0 ≤ year ∧ year ≤ 9999 then padded 4 year.toNat
  else (if year < 0 then '-' else '+') :: padded 4 year.natAbs

/-- A fraction of a second with three, six or nine digits, or nothing for a whole second. -/
def renderFraction (nanos : Nat) : List Char :=
  if nanos = 0 then []
  else if nanos % 1000000 = 0 then '.' :: padded 3 (nanos / 1000000)
  else if nanos % 1000 = 0 then '.' :: padded 6 (nanos / 1000)
  else '.' :: padded 9 nanos

/-- The date and time in UTC, with a given text after the seconds. -/
def renderWith (fraction : List Char) (t : Timestamp) : String :=
  let days := t.seconds.fdiv 86400
  let timeOfDay := (t.seconds - days * 86400).toNat
  let (year, month, day) := dateOfDays days
  let second := timeOfDay % 60 + t.nanos / 1000000000
  String.ofList <|
    renderYear year ++ '-' :: padded 2 month ++ '-' :: padded 2 day ++ 'T' ::
      padded 2 (timeOfDay / 3600) ++ ':' :: padded 2 (timeOfDay / 60 % 60) ++ ':' ::
      padded 2 second ++ fraction ++ ['Z']

/-- The timestamp with the fraction that it needs. -/
def render (t : Timestamp) : String :=
  t.renderWith (renderFraction (t.nanos % 1000000000))

/-- The timestamp without a fraction. -/
def renderSeconds (t : Timestamp) : String :=
  t.renderWith []

end Timestamp

end Ipam

import Warrant.Text.Numeral

namespace Warrant.Text.Calendar

def isLeap (year : Nat) : Bool :=
  year % 4 = 0 ∧ (year % 100 ≠ 0 ∨ year % 400 = 0)

def daysInMonth (year month : Nat) : Nat :=
  match month with
  | 2 => if isLeap year then 29 else 28
  | 4 | 6 | 9 | 11 => 30
  | _ => 31

/-- The days from 1 March of year 0 to a date, with years that begin in March. -/
def dayNumber (year month day : Nat) : Int :=
  let y : Int := if month ≤ 2 then (year : Int) - 1 else year
  let monthFromMarch : Int := (month + 9) % 12
  y * 365 + y / 4 - y / 100 + y / 400 + (153 * monthFromMarch + 2) / 5 + day - 1

/-- The day number of 1 January 1970. -/
def epoch : Int := 719468

/-- Seconds from the start of 1970 to a time of day, in universal time. -/
def seconds (year month day hour minute second : Nat) : Int :=
  (dayNumber year month day - epoch) * 86400 + (hour * 3600 + minute * 60 + second : Nat)

/-- The year, month and day that lie some days after the start of 1970. -/
def civil (days : Nat) : Nat × Nat × Nat :=
  let n := days + 719468
  let era := n / 146097
  let dayOfEra := n % 146097
  let yearOfEra := (dayOfEra - dayOfEra / 1460 + dayOfEra / 36524 - dayOfEra / 146096) / 365
  let dayOfYear := dayOfEra - (365 * yearOfEra + yearOfEra / 4 - yearOfEra / 100)
  let monthFromMarch := (5 * dayOfYear + 2) / 153
  let day := dayOfYear - (153 * monthFromMarch + 2) / 5 + 1
  let month := if monthFromMarch < 10 then monthFromMarch + 3 else monthFromMarch - 9
  (yearOfEra + era * 400 + (if month ≤ 2 then 1 else 0), month, day)

/-- The last `width` decimal digits of a number. -/
def padded : Nat → Nat → List Char
  | 0, _ => []
  | width + 1, n => padded width (n / 10) ++ [Nat.digitChar (n % 10)]

/-- The last second of the year 9999. -/
def lastSecond : Nat := 253402300799

/-- The universal time some seconds after the start of 1970, if its year has four digits. -/
def format? (time : Nat) : Option (List Char) :=
  if lastSecond < time then none
  else
    let (year, month, day) := civil (time / 86400)
    let clock := time % 86400
    some (padded 4 year ++ ['-'] ++ padded 2 month ++ ['-'] ++ padded 2 day ++ ['T'] ++
      padded 2 (clock / 3600) ++ [':'] ++ padded 2 (clock / 60 % 60) ++ [':'] ++
      padded 2 (clock % 60) ++ ['Z'])

/-- Splits off a number of exactly `width` digits. -/
def field? (width : Nat) (text : List Char) : Option (Nat × List Char) :=
  if (text.take width).length = width then
    (natural? (text.take width)).map fun n => (n, text.drop width)
  else none

/-- Splits off one given character. -/
def mark? (c : Char) : List Char → Option (List Char)
  | d :: rest => if c = d then some rest else none
  | [] => none

/-- Splits off a fraction of a second, which has no effect on the second. -/
def fraction? : List Char → Option (List Char)
  | '.' :: rest =>
    if (rest.takeWhile Char.isDigit).isEmpty then none else some (rest.dropWhile Char.isDigit)
  | text => some text

/-- Reads a whole offset from universal time, in seconds. -/
def offset? : List Char → Option Int
  | ['Z'] => some 0
  | sign :: text => do
    let (hours, text) ← field? 2 text
    let text ← mark? ':' text
    let (minutes, text) ← field? 2 text
    if text ≠ [] ∨ 25 < hours ∨ 59 < minutes then none
    else if sign = '+' then some (hours * 3600 + minutes * 60 : Nat)
    else if sign = '-' then some (-(hours * 3600 + minutes * 60 : Nat))
    else none
  | [] => none

/-- Whether a time is the last second of a month in universal time, in years of four digits. -/
def endsMonth (time : Nat) : Bool :=
  time % 86400 = 86399 ∧ (civil (time / 86400 + 1)).2.2 = 1 ∧ time ≤ lastSecond

/-- Reads a date, a time of day and an offset as seconds from the start of 1970; earlier times are
    refused. A leap second counts as the second before it and may only end a month. -/
def parse? (text : List Char) : Option Nat := do
  let (year, text) ← field? 4 text
  let text ← mark? '-' text
  let (month, text) ← field? 2 text
  let text ← mark? '-' text
  let (day, text) ← field? 2 text
  let text ← mark? 'T' text
  let (hour, text) ← field? 2 text
  let text ← mark? ':' text
  let (minute, text) ← field? 2 text
  let text ← mark? ':' text
  let (second, text) ← field? 2 text
  let text ← fraction? text
  let offset ← offset? text
  if month < 1 ∨ 12 < month ∨ day < 1 ∨ daysInMonth year month < day then none
  else if 23 < hour ∨ 59 < minute ∨ 60 < second then none
  else
    let time := seconds year month day hour minute (min second 59) - offset
    if time < 0 ∨ (second = 60 ∧ ¬ endsMonth time.toNat) then none else some time.toNat

end Warrant.Text.Calendar

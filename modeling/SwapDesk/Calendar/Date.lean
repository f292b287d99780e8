import SwapDesk.Text.Blank
import SwapDesk.Text.Digits

/-! # Calendar dates

Days of the proleptic Gregorian calendar counted from 1970-01-01, within the years `-262143` to
`262142`, converted by the era arithmetic (146097 days to 400 years, years counted from March).
`Date.parse` reads `YEAR-MONTH-DAY` as strftime's `%Y-%m-%d` does.
-/

namespace SwapDesk

structure Date where
  day : Int
  deriving DecidableEq, Repr, Ord, Hashable

namespace Date

instance : LT Date := ⟨fun a b => a.day < b.day⟩
instance : LE Date := ⟨fun a b => a.day ≤ b.day⟩
instance (a b : Date) : Decidable (a < b) := inferInstanceAs (Decidable (a.day < b.day))
instance (a b : Date) : Decidable (a ≤ b) := inferInstanceAs (Decidable (a.day ≤ b.day))

def minYear : Int := -262143

def maxYear : Int := 262142

def isLeapYear (y : Int) : Bool := y % 4 = 0 ∧ (y % 100 ≠ 0 ∨ y % 400 = 0)

def monthLength (y : Int) (m : Nat) : Nat :=
  match m with
  | 2 => if isLeapYear y then 29 else 28
  | 4 | 6 | 9 | 11 => 30
  | _ => 31

/-- The day number of a civil date, valid or not, by the era arithmetic. -/
def dayOfCivil (y : Int) (m d : Nat) : Int :=
  let y := if m ≤ 2 then y - 1 else y
  let era := y / 400
  let yoe := y - era * 400
  let mp : Int := if m > 2 then (m : Int) - 3 else (m : Int) + 9
  let doy := (153 * mp + 2) / 5 + d - 1
  let doe := yoe * 365 + yoe / 4 - yoe / 100 + doy
  era * 146097 + doe - 719468

def min : Date := ⟨dayOfCivil minYear 1 1⟩

def max : Date := ⟨dayOfCivil maxYear 12 31⟩

def ofDay? (n : Int) : Option Date :=
  if min.day ≤ n ∧ n ≤ max.day then some ⟨n⟩ else none

/-- The date of a year, month and day, if the day exists and the year is in range. -/
def ofCivil? (y : Int) (m d : Nat) : Option Date :=
  if minYear ≤ y ∧ y ≤ maxYear ∧ 1 ≤ m ∧ m ≤ 12 ∧ 1 ≤ d ∧ d ≤ monthLength y m then
    some ⟨dayOfCivil y m d⟩
  else none

/-- Year, month (1 to 12) and day of the month of a date. -/
def civil (x : Date) : Int × Nat × Nat :=
  let z := x.day + 719468
  let era := z / 146097
  let doe := z - era * 146097
  let yoe := (doe - doe / 1460 + doe / 36524 - doe / 146096) / 365
  let y := yoe + era * 400
  let doy := doe - (365 * yoe + yoe / 4 - yoe / 100)
  let mp := (5 * doy + 2) / 153
  let d := doy - (153 * mp + 2) / 5 + 1
  let m := if mp < 10 then mp + 3 else mp - 9
  (if m ≤ 2 then y + 1 else y, m.toNat, d.toNat)

def year (x : Date) : Int := x.civil.1

def addDays? (x : Date) (n : Int) : Option Date := ofDay? (x.day + n)

/-- The number of days since the last Sunday: `0` on a Sunday. 1970-01-01 was a Thursday. -/
def daysFromSunday (x : Date) : Nat := ((x.day + 4) % 7).toNat

def weekStart? (x : Date) : Option Date := x.addDays? (-(x.daysFromSunday : Int))

/-- A year as four digits, or with a sign and at least four digits outside `0 … 9999`. -/
def yearText (y : Int) : String :=
  if 0 ≤ y ∧ y ≤ 9999 then digitStringPadded y.toNat 4
  else (if y < 0 then "-" else "+") ++ digitStringPadded y.natAbs 4

def text (x : Date) : String :=
  let (y, m, d) := x.civil
  yearText y ++ "-" ++ digitStringPadded m 2 ++ "-" ++ digitStringPadded d 2

def monthAbbrev (m : Nat) : String :=
  ["Jan", "Feb", "Mar", "Apr", "May", "Jun", "Jul", "Aug", "Sep", "Oct", "Nov", "Dec"].getD (m - 1) ""

/-- The date as a short label: month abbreviation and unpadded day, as `Feb 8`. -/
def shortLabel (x : Date) : String :=
  let (_, m, d) := x.civil
  monthAbbrev m ++ " " ++ toString d

end Date

/-! ## Reading dates -/

inductive DateError where
  /-- a number is out of its range, or the date does not exist -/
  | outOfRange
  /-- a character is not what the pattern wants -/
  | invalid
  /-- the text ends before the pattern does -/
  | tooShort
  /-- text is left after the pattern -/
  | tooLong
  deriving DecidableEq, Repr

def DateError.message : DateError → String
  | .outOfRange => "input is out of range"
  | .invalid => "input contains invalid characters"
  | .tooShort => "premature end of input"
  | .tooLong => "trailing input"

namespace Date

/-- Reads between `least` and `most` ASCII digits as a number below `2^63`. Fewer than
`least` characters left is `tooShort`; fewer than `least` digits is `invalid`. -/
def scanNumber (cs : List Char) (least most : Nat) : Except DateError (Nat × List Char) :=
  if cs.length < least then .error .tooShort
  else
    let ds := (cs.take most).takeWhile Char.isDigit
    if ds.length < least then .error .invalid
    else
      let n := ds.foldl (fun n c => 10 * n + (c.toNat - '0'.toNat)) 0
      if n ≥ Nat.pow 2 63 then .error .outOfRange else .ok (n, cs.drop ds.length)

/-- Reads a year after blanks: a sign and any number of digits, or up to four digits. -/
def scanYear (cs : List Char) : Except DateError (Int × List Char) :=
  match dropBlank cs with
  | '-' :: rest => do
    let (n, rest) ← scanNumber rest 1 (rest.length + 1)
    return (-(n : Int), rest)
  | '+' :: rest => do
    let (n, rest) ← scanNumber rest 1 (rest.length + 1)
    return ((n : Int), rest)
  | rest => do
    let (n, rest) ← scanNumber rest 1 4
    return ((n : Int), rest)

def scanLiteral (c : Char) : List Char → Except DateError (List Char)
  | [] => .error .tooShort
  | d :: rest => if d = c then .ok rest else .error .invalid

/-- Reads a number of one or two digits after blanks that must lie in `[1, hi]`. -/
def scanField (cs : List Char) (hi : Nat) : Except DateError (Nat × List Char) := do
  let (n, rest) ← scanNumber (dropBlank cs) 1 2
  if 1 ≤ n ∧ n ≤ hi then return (n, rest) else throw .outOfRange

/-- Reads the front of a text as year, month and day; returns what is left. With `spaced`,
blanks may also stand before each `-`. -/
def scanCivil (spaced : Bool) (cs : List Char) :
    Except DateError ((Int × Nat × Nat) × List Char) := do
  let gap (cs : List Char) := if spaced then dropBlank cs else cs
  let (y, cs) ← scanYear cs
  if y < -2147483648 ∨ y > 2147483647 then throw .outOfRange
  let cs ← scanLiteral '-' (gap cs)
  let (m, cs) ← scanField cs 12
  let cs ← scanLiteral '-' (gap cs)
  let (d, cs) ← scanField cs 31
  return ((y, m, d), gap cs)

def ofScan (r : Except DateError ((Int × Nat × Nat) × List Char)) : Except DateError Date := do
  let ((y, m, d), rest) ← r
  if !rest.isEmpty then throw .tooLong
  match ofCivil? y m d with
  | some x => return x
  | none => throw .outOfRange

/-- Reads a whole text as a date in the pattern `YEAR-MONTH-DAY`, with blanks allowed only
before the numbers. -/
def parse (s : String) : Except DateError Date := ofScan (scanCivil false s.toList)

/-- Reads a stored date: as `Date.parse`, with blanks also allowed before each `-` and at
the end. -/
def ofText (s : String) : Except DateError Date := ofScan (scanCivil true s.toList)

end Date

end SwapDesk

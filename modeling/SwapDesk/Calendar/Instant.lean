import SwapDesk.Calendar.Date

/-! # Instants

Whole seconds since 1970-01-01T00:00:00Z and a fraction in nanoseconds; a fraction of `10^9` or
more marks a leap second, after every instant of the minute's 59th second.
-/

namespace SwapDesk

structure Instant where
  seconds : Int
  nanos : Nat
  deriving DecidableEq, Repr

namespace Instant

/-- Instants in time order: by seconds, then by fraction. -/
def cmp (a b : Instant) : Ordering :=
  match compare a.seconds b.seconds with
  | .eq => compare a.nanos b.nanos
  | o => o

instance : Ord Instant := ⟨cmp⟩
instance : LT Instant := ⟨fun a b => cmp a b = .lt⟩
instance : LE Instant := ⟨fun a b => cmp a b ≠ .gt⟩
instance (a b : Instant) : Decidable (a < b) := inferInstanceAs (Decidable (cmp a b = .lt))
instance (a b : Instant) : Decidable (a ≤ b) := inferInstanceAs (Decidable (cmp a b ≠ .gt))

def date (t : Instant) : Date := ⟨t.seconds / 86400⟩

def secondOfDay (t : Instant) : Nat := (t.seconds % 86400).toNat

def startOfDay (d : Date) : Instant := ⟨d.day * 86400, 0⟩

/-- The last whole second of a date, `23:59:59`. -/
def endOfDay (d : Date) : Instant := ⟨d.day * 86400 + 86399, 0⟩

def min : Instant := startOfDay Date.min

def inRange (t : Instant) : Bool := Date.min.day ≤ t.date.day ∧ t.date.day ≤ Date.max.day

/-- The instant `n` whole days earlier, if it lies on a representable date. A leap second
has no counterpart on an earlier day, so a move of at least one day starts from the same
fraction past the second that follows it. -/
def subDays? (t : Instant) (n : Nat) : Option Instant :=
  let t : Instant :=
    if n ≠ 0 ∧ 1000000000 ≤ t.nanos then ⟨t.seconds + 1, t.nanos - 1000000000⟩ else t
  let r : Instant := ⟨t.seconds - 86400 * n, t.nanos⟩
  if r.inRange then some r else none

inductive FractionStyle where
  /-- none for a whole second, else three, six or nine digits, the fewest that are exact -/
  | auto
  /-- always three digits, the fraction cut to milliseconds -/
  | millis
  deriving DecidableEq, Repr

def fractionText (nanos : Nat) : FractionStyle → String
  | .millis => "." ++ digitStringPadded (nanos / 1000000) 3
  | .auto =>
    if nanos = 0 then ""
    else if nanos % 1000000 = 0 then "." ++ digitStringPadded (nanos / 1000000) 3
    else if nanos % 1000 = 0 then "." ++ digitStringPadded (nanos / 1000) 6
    else "." ++ digitStringPadded nanos 9

def clockText (t : Instant) : String :=
  let s := t.secondOfDay
  let sec := if t.nanos ≥ 1000000000 then s % 60 + 1 else s % 60
  digitStringPadded (s / 3600) 2 ++ ":" ++ digitStringPadded (s / 60 % 60) 2 ++ ":" ++
    digitStringPadded sec 2

/-- The RFC 3339 text of an instant in UTC, ending in `Z` when `zulu` holds and in
`+00:00` otherwise. A leap second is written as second 60. -/
def text (t : Instant) (style : FractionStyle) (zulu : Bool) : String :=
  let nanos := if t.nanos ≥ 1000000000 then t.nanos - 1000000000 else t.nanos
  t.date.text ++ "T" ++ t.clockText ++ fractionText nanos style ++
    (if zulu then "Z" else "+00:00")

/-! ## Reading instants -/

/-- Reads one or two digits after blanks as a number in `[0, hi]`. -/
def scanClock (cs : List Char) (hi : Nat) : Option (Nat × List Char) :=
  match Date.scanNumber (dropBlank cs) 1 2 with
  | .ok (n, rest) => if n ≤ hi then some (n, rest) else none
  | .error _ => none

def scanSeparator (c : Char) (cs : List Char) : Option (List Char) :=
  match dropBlank cs with
  | d :: rest => if d = c then some rest else none
  | [] => none

/-- Reads an optional fraction: a point and one or more digits, of which the first nine
count. -/
def scanFraction : List Char → Option (Nat × List Char)
  | '.' :: rest =>
    let ds := rest.takeWhile Char.isDigit
    if ds.isEmpty then none
    else
      let nine := (ds.take 9 ++ List.replicate (9 - ds.length) '0')
      some (nine.foldl (fun n c => 10 * n + (c.toNat - '0'.toNat)) 0, rest.drop ds.length)
  | cs => some (0, cs)

/-- Reads a UTC offset in seconds: `Z`, `z`, or a sign (`+`, `-` or the minus sign), two
hour digits, any colons or blanks, and two minute digits. -/
def scanOffset (cs : List Char) : Option (Int × List Char) :=
  match cs with
  | 'Z' :: rest => some (0, rest)
  | 'z' :: rest => some (0, rest)
  | c :: rest =>
    let negative := c = '-' ∨ c = '−'
    if c = '+' ∨ negative then
      match rest with
      | h1 :: h2 :: rest =>
        if h1.isDigit ∧ h2.isDigit then
          let rest := rest.dropWhile fun c => c = ':' ∨ isBlank c
          match rest with
          | m1 :: m2 :: rest =>
            if '0' ≤ m1 ∧ m1 ≤ '5' ∧ m2.isDigit then
              let v : Int := ((h1.toNat - 48) * 10 + (h2.toNat - 48)) * 3600 +
                ((m1.toNat - 48) * 10 + (m2.toNat - 48)) * 60
              some (if negative then -v else v, rest)
            else none
          | _ => none
        else none
      | _ => none
    else none
  | [] => none

def scanDate (cs : List Char) : Option ((Int × Nat × Nat) × List Char) := do
  let (y, cs) ← (Date.scanYear cs).toOption
  let cs ← scanSeparator '-' cs
  let (m, cs) ← (Date.scanField cs 12).toOption
  let cs ← scanSeparator '-' cs
  let (d, cs) ← (Date.scanField cs 31).toOption
  pure ((y, m, d), cs)

def scanTime (cs : List Char) : Option ((Nat × Nat × Nat × Nat) × List Char) := do
  let (hh, cs) ← scanClock cs 23
  let cs ← scanSeparator ':' cs
  let (mm, cs) ← scanClock cs 59
  let cs ← scanSeparator ':' cs
  let (ss, cs) ← scanClock cs 60
  let (nanos, cs) ← scanFraction cs
  pure ((hh, mm, ss, nanos), cs)

def scanZone (cs : List Char) : Option (Int × List Char) :=
  match cs with
  | u :: t :: c :: rest =>
    if u.toLower = 'u' ∧ t.toLower = 't' ∧ c.toLower = 'c' then some (0, rest)
    else scanOffset cs
  | _ => scanOffset cs

/-- The instant of a local date and time at an offset, if it lies on a date of the range. -/
def ofLocal? (y : Int) (m d hh mm ss nanos : Nat) (offset : Int) : Option Instant := do
  let date ← Date.ofCivil? y m d
  let (sec, nanos) := if ss = 60 then (59, nanos + 1000000000) else (ss, nanos)
  let t : Instant := ⟨date.day * 86400 + (hh * 3600 + mm * 60 + sec : Nat) - offset, nanos⟩
  if t.inRange then some t else none

/-- Reads an RFC 3339 instant with some latitude: `T`, `t` or a blank before the time, blanks
around the separators, any number of fraction digits, `UTC` or an offset of less than a day. -/
def parse? (s : String) : Option Instant := do
  let ((y, m, d), cs) ← scanDate s.toList
  let cs ← match cs with
    | c :: rest => if c = 'T' ∨ c = 't' ∨ c = ' ' then some rest else none
    | [] => none
  let ((hh, mm, ss, nanos), cs) ← scanTime cs
  let (offset, cs) ← scanZone (dropBlank cs)
  if !(dropBlank cs).isEmpty then none
  if offset ≤ -86400 ∨ 86400 ≤ offset then none
  ofLocal? y m d hh mm ss nanos offset

end Instant

end SwapDesk

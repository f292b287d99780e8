import SwapDesk.Decimal.Read
import SwapDesk.Text.Digits

/-! # Number literals in text

A whole text as one number, as command-line values are read: a whole number in bounds, the
first digit past a bound deciding the error, or a float literal (`inf`, `nan` in any case, or
digits with an optional point and exponent) read to the nearest double.
-/

namespace SwapDesk

inductive WholeError where
  | empty
  | invalidDigit
  | tooLarge
  | tooSmall
  deriving DecidableEq, Repr

def WholeError.message : WholeError → String
  | .empty => "cannot parse integer from empty string"
  | .invalidDigit => "invalid digit found in string"
  | .tooLarge => "number too large to fit in target type"
  | .tooSmall => "number too small to fit in target type"

/-- Accumulates digits from the left, failing at the first non-digit or at the first step
past `bound`; `tooFar` names the failure past the bound. -/
def accumulateDigits (bound : Nat) (tooFar : WholeError) : Nat → List Char → Except WholeError Nat
  | n, [] => .ok n
  | n, c :: rest =>
    if !c.isDigit then .error .invalidDigit
    else
      let m := 10 * n + (c.toNat - '0'.toNat)
      if m > bound then .error tooFar else accumulateDigits bound tooFar m rest

/-- Reads a whole number in `[lo, hi]`, with `lo ≤ 0`. -/
def readWhole (s : String) (lo : Int) (hi : Nat) : Except WholeError Int :=
  match s.toList with
  | [] => .error .empty
  | ['+'] | ['-'] => .error .invalidDigit
  | '+' :: ds => Int.ofNat <$> accumulateDigits hi .tooLarge 0 ds
  | '-' :: ds =>
    if lo < 0 then (fun n => -(n : Int)) <$> accumulateDigits lo.natAbs .tooSmall 0 ds
    else .error .invalidDigit
  | ds => Int.ofNat <$> accumulateDigits hi .tooLarge 0 ds

inductive FloatLiteralError where
  | empty
  | invalid
  deriving DecidableEq, Repr

def FloatLiteralError.message : FloatLiteralError → String
  | .empty => "cannot parse float from empty string"
  | .invalid => "invalid float literal"

/-- The double nearest to `±digits · 10^exponent`, without computing numbers far beyond
the range of doubles. -/
def scaledFloat (negative : Bool) (digits : Nat) (exponent : Int) : Float :=
  let size : Int := digitCount digits + exponent
  if digits == 0 || size < -400 then (if negative then -0.0 else 0.0)
  else if size > 400 then (if negative then -(1.0 / 0.0) else 1.0 / 0.0)
  else if exponent ≥ 0 then nearestFloat negative (digits * Nat.pow 10 exponent.toNat) 1
  else nearestFloat negative digits (Nat.pow 10 (-exponent).toNat)

def digitsNat (ds : List Char) : Nat := ds.foldl (fun n c => 10 * n + (c.toNat - '0'.toNat)) 0

def readFloat (s : String) : Except FloatLiteralError Float :=
  let cs := s.toList
  if cs.isEmpty then .error .empty
  else
    let (negative, body) := match cs with
      | '-' :: rest => (true, rest)
      | '+' :: rest => (false, rest)
      | _ => (false, cs)
    let lower := String.ofList (body.map Char.toLower)
    if lower == "inf" || lower == "infinity" then
      .ok (if negative then -(1.0 / 0.0) else 1.0 / 0.0)
    else if lower == "nan" then .ok (0.0 / 0.0)
    else
      let whole := body.takeWhile Char.isDigit
      let afterWhole := body.drop whole.length
      let (frac, afterFrac) := match afterWhole with
        | '.' :: rest => (rest.takeWhile Char.isDigit, rest.dropWhile Char.isDigit)
        | rest => ([], rest)
      if whole.isEmpty && frac.isEmpty then .error .invalid
      else
        let expo : Option Int := match afterFrac with
          | [] => some 0
          | e :: rest =>
            if e == 'e' || e == 'E' then
              let (eneg, eds) := match rest with
                | '-' :: r => (true, r)
                | '+' :: r => (false, r)
                | r => (false, r)
              if eds.isEmpty || !eds.all Char.isDigit then none
              else
                let v : Int := digitsNat eds
                some (if eneg then -v else v)
            else none
        match expo with
        | none => .error .invalid
        | some e => .ok (scaledFloat negative (digitsNat (whole ++ frac)) (e - frac.length))

end SwapDesk

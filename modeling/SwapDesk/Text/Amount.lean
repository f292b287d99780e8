import SwapDesk.Decimal.Layout

/-! # Amounts as text

Grouped amounts (`1,234.50`, and `0.00` for `-0.001`), dollar amounts (`$-4,281.75`) and
signatures cut to their first eight and last four characters around `...`.
-/

namespace SwapDesk

/-- The characters of a whole-number text with a comma before every group of three
counted from the right. -/
def groupThousands (s : String) : String :=
  let cs := s.toList
  let n := cs.length
  String.ofList ((cs.zipIdx).flatMap fun (c, i) =>
    if i > 0 ∧ (n - i) % 3 = 0 then [',', c] else [c])

/-- The characters before the first `c` and, when there is a `c`, those after it. -/
def splitFirst (c : Char) (cs : List Char) : List Char × Option (List Char) :=
  match cs.dropWhile (· ≠ c) with
  | [] => (cs, none)
  | _ :: after => (cs.takeWhile (· ≠ c), some after)

def formatNumber (x : Float) (d : Nat) : String :=
  let t := x.abs.toFixed d
  let (whole, frac) := splitFirst '.' t.toList
  let grouped := groupThousands (String.ofList whole) ++
    (match frac with | some f => "." ++ String.ofList f | none => "")
  let allZero := t.toList.all fun c => c = '0' ∨ c = '.'
  if x < 0.0 ∧ !allZero then "-" ++ grouped else grouped

def formatUsd (x : Float) : String := "$" ++ formatNumber x 2

def truncateSignature (s : String) : String :=
  let cs := s.toList
  if cs.length ≤ 12 then s
  else String.ofList (cs.take 8) ++ "..." ++ String.ofList (cs.drop (cs.length - 4))

def bpsToPercent (bps : UInt32) : Float := Float.ofNat bps.toNat / 100.0

end SwapDesk

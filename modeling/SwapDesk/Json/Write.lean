import SwapDesk.Json.Basic
import SwapDesk.Decimal.Layout

/-! # Writing JSON

A compact and a pretty writer (two spaces per level) with one escaping rule, the control
characters as short escapes or `\u00XX`, and one number rule, `FloatLayout.json` with `null` for
NaN and the infinities.
-/

namespace SwapDesk

namespace Json

def escapeChar (c : Char) : String :=
  match c with
  | '"' => "\\\""
  | '\\' => "\\\\"
  | '\n' => "\\n"
  | '\r' => "\\r"
  | '\t' => "\\t"
  | '\x08' => "\\b"
  | '\x0c' => "\\f"
  | c =>
    if c.toNat < 0x20 then
      let hex := Nat.toDigits 16 c.toNat
      "\\u00" ++ String.ofList (List.replicate (2 - hex.length) '0' ++ hex)
    else c.toString

def quote (s : String) : String :=
  "\"" ++ String.join (s.toList.map escapeChar) ++ "\""

/-- The text of a number under the JSON layout; no digits for NaN or infinities. -/
def floatText (x : Float) : String :=
  if x.isNaN ∨ x.isInf then "null" else FloatLayout.json.render x

mutual

def compact : Json → String
  | .null => "null"
  | .bool b => if b then "true" else "false"
  | .int i => toString i
  | .float x => floatText x
  | .str s => quote s
  | .arr xs => "[" ++ ",".intercalate (compactItems xs) ++ "]"
  | .obj ms => "\x7b" ++ ",".intercalate (compactMembers ms) ++ "\x7d"

def compactItems : List Json → List String
  | [] => []
  | x :: xs => compact x :: compactItems xs

def compactMembers : List (String × Json) → List String
  | [] => []
  | (k, v) :: ms => (quote k ++ ":" ++ compact v) :: compactMembers ms

end

def indent (depth : Nat) : String := String.ofList (List.replicate (2 * depth) ' ')

mutual

def prettyAt (depth : Nat) : Json → String
  | .arr xs =>
    if xs.isEmpty then "[]"
    else "[\n" ++ ",\n".intercalate (prettyItems depth xs) ++ "\n" ++ indent depth ++ "]"
  | .obj ms =>
    if ms.isEmpty then "\x7b\x7d"
    else "\x7b\n" ++ ",\n".intercalate (prettyMembers depth ms) ++ "\n" ++ indent depth ++ "\x7d"
  | j => compact j

def prettyItems (depth : Nat) : List Json → List String
  | [] => []
  | x :: xs => (indent (depth + 1) ++ prettyAt (depth + 1) x) :: prettyItems depth xs

def prettyMembers (depth : Nat) : List (String × Json) → List String
  | [] => []
  | (k, v) :: ms => (indent (depth + 1) ++ quote k ++ ": " ++ prettyAt (depth + 1) v) :: prettyMembers depth ms

end

def pretty (j : Json) : String := prettyAt 0 j

end Json

end SwapDesk

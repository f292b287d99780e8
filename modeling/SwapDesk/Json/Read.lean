import SwapDesk.Json.Basic
import SwapDesk.Text.Bytes

/-! # Reading JSON

The strict JSON grammar, containers nested at most 127 deep, a repeated key keeping its first
place and last value. Whole numbers in `-2^63 … 2^64 - 1` are exact; others take the fast path of
a rounded significand scaled by one power of ten (`fastScale`), exact for at most 15 digits and
`10^22`. Faults name a byte position. Fuel of twice the text's length bounds the reader.
-/

namespace SwapDesk

namespace Json

inductive ReadFault where
  | eofList
  | eofObject
  | eofString
  | eofValue
  | expectedColon
  | expectedListCommaOrEnd
  | expectedObjectCommaOrEnd
  | expectedIdent
  | expectedValue
  | invalidEscape
  | invalidNumber
  | numberOutOfRange
  | controlCharacter
  | keyMustBeString
  | loneLeadingSurrogate
  | unexpectedEndOfHexEscape
  | trailingComma
  | trailingCharacters
  | recursionLimit
  deriving DecidableEq, Repr

def ReadFault.text : ReadFault → String
  | .eofList => "EOF while parsing a list"
  | .eofObject => "EOF while parsing an object"
  | .eofString => "EOF while parsing a string"
  | .eofValue => "EOF while parsing a value"
  | .expectedColon => "expected `:`"
  | .expectedListCommaOrEnd => "expected `,` or `]`"
  | .expectedObjectCommaOrEnd => "expected `,` or `\x7d`"
  | .expectedIdent => "expected ident"
  | .expectedValue => "expected value"
  | .invalidEscape => "invalid escape"
  | .invalidNumber => "invalid number"
  | .numberOutOfRange => "number out of range"
  | .controlCharacter => "control character (\\u0000-\\u001F) found while parsing a string"
  | .keyMustBeString => "key must be a string"
  | .loneLeadingSurrogate => "lone leading surrogate in hex escape"
  | .unexpectedEndOfHexEscape => "unexpected end of hex escape"
  | .trailingComma => "trailing comma"
  | .trailingCharacters => "trailing characters"
  | .recursionLimit => "recursion limit exceeded"

/-- A fault and its place: `extra` bytes past the start of the unread text `rest`. -/
structure ReadError where
  fault : ReadFault
  rest : List Char
  extra : Nat

/-- The line (from one) and column (bytes since the line's start) of a byte position. -/
def lineColumn (cs : List Char) (index : Nat) : Nat × Nat :=
  go cs 0 1 0
where
  go : List Char → Nat → Nat → Nat → Nat × Nat
    | [], _, line, start => (line, index - start)
    | c :: rest, pos, line, start =>
      if index ≤ pos then (line, index - start)
      else if c = '\n' then go rest (pos + 1) (line + 1) (pos + 1)
      else go rest (pos + c.utf8Size) line start

def ReadError.message (text : String) (e : ReadError) : String :=
  let cs := text.toList
  let size := byteCount cs
  let index := min size (size - byteCount e.rest + e.extra)
  let (line, column) := lineColumn cs index
  e.fault.text ++ " at line " ++ toString line ++ " column " ++ toString column

/-- A fault at the end of what was taken, just before `rest`. -/
def faultAt {α : Type} (f : ReadFault) (rest : List Char) : Except ReadError α :=
  .error ⟨f, rest, 0⟩

/-- A fault shown by the next character, looked at but not taken. -/
def faultNext {α : Type} (f : ReadFault) (rest : List Char) : Except ReadError α :=
  .error ⟨f, rest, 1⟩

def skipBlank : List Char → List Char
  | c :: cs => if c = ' ' ∨ c = '\t' ∨ c = '\n' ∨ c = '\r' then skipBlank cs else c :: cs
  | [] => []

def hexDigit? (c : Char) : Option Nat :=
  if '0' ≤ c ∧ c ≤ '9' then some (c.toNat - '0'.toNat)
  else if 'a' ≤ c ∧ c ≤ 'f' then some (c.toNat - 'a'.toNat + 10)
  else if 'A' ≤ c ∧ c ≤ 'F' then some (c.toNat - 'A'.toNat + 10)
  else none

def hexUnit? (a b c d : Char) : Option Nat := do
  return (← hexDigit? a) * 4096 + (← hexDigit? b) * 256 + (← hexDigit? c) * 16 + (← hexDigit? d)

/-- The code unit of the four bytes after `\u`, and the rest. Fewer than four bytes end the
text too early; four that are not hexadecimal digits are an invalid escape. -/
def hexEscape (cs : List Char) : Except ReadError (Nat × List Char) :=
  match cs with
  | a :: b :: c :: d :: rest =>
    match hexUnit? a b c d with
    | some u => .ok (u, rest)
    | none => .error ⟨.invalidEscape, cs, 4⟩
  | _ => if byteCount cs < 4 then faultAt .eofString [] else .error ⟨.invalidEscape, cs, 4⟩

def shortEscape? : Char → Option Char
  | '"' => some '"'
  | '\\' => some '\\'
  | '/' => some '/'
  | 'b' => some '\x08'
  | 'f' => some '\x0c'
  | 'n' => some '\n'
  | 'r' => some '\r'
  | 't' => some '\t'
  | _ => none

/-- After a high surrogate `high`: a backslash, a `u` and a low surrogate, as one
character, and the rest. -/
def lowSurrogate (high : Nat) (cs : List Char) : Except ReadError (Char × List Char) :=
  match cs with
  | [] => faultAt .eofString []
  | '\\' :: rest =>
    match rest with
    | [] => faultAt .eofString []
    | 'u' :: rest => do
      let (low, rest) ← hexEscape rest
      if 0xDC00 ≤ low ∧ low ≤ 0xDFFF then
        return (Char.ofNat (0x10000 + (high - 0xD800) * 0x400 + (low - 0xDC00)), rest)
      else faultAt .loneLeadingSurrogate rest
    | _ :: _ => .error ⟨.unexpectedEndOfHexEscape, rest, 1⟩
  | _ :: _ => .error ⟨.unexpectedEndOfHexEscape, cs, 1⟩

def escape (cs : List Char) : Except ReadError (Char × List Char) :=
  match cs with
  | [] => faultAt .eofString []
  | 'u' :: rest => do
    let (n, rest) ← hexEscape rest
    if 0xDC00 ≤ n ∧ n ≤ 0xDFFF then faultAt .loneLeadingSurrogate rest
    else if n < 0xD800 ∨ 0xDBFF < n then return (Char.ofNat n, rest)
    else lowSurrogate n rest
  | c :: rest =>
    match shortEscape? c with
    | some e => .ok (e, rest)
    | none => faultAt .invalidEscape rest

/-- Reads the rest of a string after its opening quote; `acc` holds the characters read
so far, last first, and `fuel` bounds the steps. -/
def readStringRest : Nat → List Char → List Char → Except ReadError (String × List Char)
  | 0, _, cs => faultAt .eofString cs
  | _ + 1, _, [] => faultAt .eofString []
  | _ + 1, acc, '"' :: rest => .ok (String.ofList acc.reverse, rest)
  | fuel + 1, acc, '\\' :: rest => do
    let (c, rest) ← escape rest
    readStringRest fuel (c :: acc) rest
  | fuel + 1, acc, c :: rest =>
    if c.toNat < 0x20 then faultAt .controlCharacter rest
    else readStringRest fuel (c :: acc) rest

def readString (cs : List Char) : Except ReadError (String × List Char) :=
  readStringRest (cs.length + 1) [] cs

/-- The largest 64-bit unsigned value, where digit accumulation stops. -/
def wordMax : Nat := Nat.pow 2 64 - 1

/-- The largest 32-bit signed value, where exponent accumulation stops. -/
def expMax : Int := 2147483647

def powerOfTen (i : Nat) : Float := nearestFloat false (Nat.pow 10 i) 1

/-- Scales a significand by a power of ten the fast way: the significand is rounded to a
double once, then multiplied or divided by one double power of ten; exponents beyond the
table divide by `1e308` first. A result that overflows is refused (`none`). The steps round
separately, so the last place may differ from the nearest double. -/
def fastScale (negative : Bool) (significand : Nat) (exponent : Int) : Option Float :=
  let f := nearestFloat false significand 1
  let r := go f exponent (exponent.natAbs / 308 + 1)
  r.map fun x => if negative then -x else x
where
  go (f : Float) (e : Int) : Nat → Option Float
    | 0 => some f
    | fuel + 1 =>
      if e.natAbs ≤ 308 then
        if e ≥ 0 then
          let g := f * powerOfTen e.natAbs
          if g.isInf then none else some g
        else some (f / powerOfTen e.natAbs)
      else if f == 0.0 then some f
      else if e ≥ 0 then none
      else go (f / 1e308) (e + 308) fuel

def scaled (negative : Bool) (significand : Nat) (exponent : Int) (rest : List Char) :
    Except ReadError (Json × List Char) :=
  match fastScale negative significand exponent with
  | some x => .ok (.float x, rest)
  | none => faultAt .numberOutOfRange rest

def digitValue (c : Char) : Nat := c.toNat - '0'.toNat

/-- Exponent digits after the first, accumulated while they fit 32 bits. Past that the
number is zero, or out of range when its exponent is positive and its significand not
zero. -/
def readExponentDigits (negative expNegative : Bool) (significand : Nat) (start : Int)
    (exp : Nat) : List Char → Except ReadError (Json × List Char)
  | c :: rest =>
    if c.isDigit then
      let e := 10 * exp + digitValue c
      if e > expMax then
        if significand ≠ 0 ∧ !expNegative then faultAt .numberOutOfRange rest
        else .ok (.float (if negative then -0.0 else 0.0), rest.dropWhile Char.isDigit)
      else readExponentDigits negative expNegative significand start e rest
    else scaled negative significand (clampExp (start + signed exp)) (c :: rest)
  | [] => scaled negative significand (clampExp (start + signed exp)) []
where
  signed (exp : Nat) : Int := if expNegative then -(exp : Int) else exp
  clampExp (e : Int) : Int := max (min e expMax) (-expMax - 1)

def readExponent (negative : Bool) (significand : Nat) (start : Int) (cs : List Char) :
    Except ReadError (Json × List Char) :=
  let (expNegative, cs) := match cs with
    | '+' :: r => (false, r)
    | '-' :: r => (true, r)
    | r => (false, r)
  match cs with
  | [] => faultAt .eofValue []
  | c :: rest =>
    if c.isDigit then readExponentDigits negative expNegative significand start (digitValue c) rest
    else faultAt .invalidNumber rest

/-- A number whose digits are all read: an exponent next, or the fast scaling. -/
def finishScaled (negative : Bool) (significand : Nat) (exponent : Int) :
    List Char → Except ReadError (Json × List Char)
  | c :: rest =>
    if c = 'e' ∨ c = 'E' then readExponent negative significand exponent rest
    else scaled negative significand exponent (c :: rest)
  | [] => scaled negative significand exponent []

/-- Fraction digits, accumulated while the significand fits 64 bits; later digits are
skipped. `count` digits have been taken so far, and the first is required. -/
def readFraction (negative : Bool) (significand : Nat) (start : Int) (count : Nat) :
    List Char → Except ReadError (Json × List Char)
  | c :: rest =>
    if c.isDigit then
      let d := digitValue c
      if significand * 10 + d > wordMax then
        finishScaled negative significand (start - count) ((c :: rest).dropWhile Char.isDigit)
      else readFraction negative (significand * 10 + d) start (count + 1) rest
    else if count = 0 then faultNext .invalidNumber (c :: rest)
    else finishScaled negative significand (start - count) (c :: rest)
  | [] => if count = 0 then faultNext .eofValue []
    else finishScaled negative significand (start - count) []

/-- Whole digits past the 64-bit range: each raises the exponent by one. -/
def readLongWhole (negative : Bool) (significand : Nat) (exponent : Int) :
    List Char → Except ReadError (Json × List Char)
  | c :: rest =>
    if c.isDigit then readLongWhole negative significand (exponent + 1) rest
    else if c = '.' then readFraction negative significand exponent 0 rest
    else finishScaled negative significand exponent (c :: rest)
  | [] => finishScaled negative significand exponent []

/-- A number that has only whole digits: exact if it fits 64 bits (negative ones down to
`-2^63`), else a double; `-0` is the double `-0.0`. -/
def wholeNumber (negative : Bool) (significand : Nat) : Json :=
  if !negative then .int significand
  else if significand = 0 then .float (-0.0)
  else if significand ≤ Nat.pow 2 63 then .int (-(significand : Int))
  else .float (-(nearestFloat false significand 1))

/-- Whole digits after the first, accumulated while they fit 64 bits. -/
def readWhole (negative : Bool) (significand : Nat) :
    List Char → Except ReadError (Json × List Char)
  | c :: rest =>
    if c.isDigit then
      let d := digitValue c
      if significand * 10 + d > wordMax then readLongWhole negative significand 0 (c :: rest)
      else readWhole negative (significand * 10 + d) rest
    else if c = '.' then readFraction negative significand 0 0 rest
    else if c = 'e' ∨ c = 'E' then readExponent negative significand 0 rest
    else .ok (wholeNumber negative significand, c :: rest)
  | [] => .ok (wholeNumber negative significand, [])

def readNumber (negative : Bool) (cs : List Char) : Except ReadError (Json × List Char) :=
  match cs with
  | [] => faultAt .eofValue []
  | '0' :: rest =>
    match rest with
    | c :: _ => if c.isDigit then faultNext .invalidNumber rest else readWhole negative 0 rest
    | [] => .ok (wholeNumber negative 0, [])
  | c :: rest =>
    if '1' ≤ c ∧ c ≤ '9' then readWhole negative (digitValue c) rest
    else faultAt .invalidNumber rest

def readWord (v : Json) : List Char → List Char → Except ReadError (Json × List Char)
  | [], cs => .ok (v, cs)
  | _ :: _, [] => faultAt .eofValue []
  | w :: ws, c :: rest => if c = w then readWord v ws rest else faultAt .expectedIdent rest

/-- Adds a member to members kept last first; a key already present keeps its place and
takes the new value. -/
def putMember (k : String) (v : Json) (acc : List (String × Json)) : List (String × Json) :=
  if acc.any (·.1 == k) then acc.map fun m => if m.1 == k then (k, v) else m else (k, v) :: acc

def depthLimit : Nat := 128

mutual

/-- Reads one value after blanks, inside `depth` containers; `fuel` bounds the nesting and
the number of items. -/
def readValue : Nat → Nat → List Char → Except ReadError (Json × List Char)
  | 0, _, cs => faultNext .recursionLimit cs
  | fuel + 1, depth, cs =>
    match skipBlank cs with
    | [] => faultNext .eofValue []
    | c :: rest =>
      if c = '[' then
        if depth + 1 ≥ depthLimit then faultNext .recursionLimit (c :: rest)
        else readItems fuel (depth + 1) true [] rest
      else if c = '{' then
        if depth + 1 ≥ depthLimit then faultNext .recursionLimit (c :: rest)
        else readMembers fuel (depth + 1) true [] rest
      else if c = '"' then do
        let (s, rest) ← readString rest
        return (.str s, rest)
      else if c = 't' then readWord (.bool true) ['r', 'u', 'e'] rest
      else if c = 'f' then readWord (.bool false) ['a', 'l', 's', 'e'] rest
      else if c = 'n' then readWord .null ['u', 'l', 'l'] rest
      else if c = '-' then readNumber true rest
      else if c.isDigit then readNumber false (c :: rest)
      else faultNext .expectedValue (c :: rest)

/-- Reads the items of an array after its opening bracket; `acc` holds those read, last
first, and `first` says whether none has been read. -/
def readItems : Nat → Nat → Bool → List Json → List Char → Except ReadError (Json × List Char)
  | 0, _, _, _, cs => faultNext .recursionLimit cs
  | fuel + 1, depth, first, acc, cs =>
    match skipBlank cs with
    | [] => faultNext .eofList []
    | ']' :: rest => .ok (.arr acc.reverse, rest)
    | c :: rest =>
      if first then do
        let (v, rest) ← readValue fuel depth (c :: rest)
        readItems fuel depth false (v :: acc) rest
      else if c = ',' then
        match skipBlank rest with
        | [] => faultNext .eofValue []
        | ']' :: more => faultNext .trailingComma (']' :: more)
        | next => do
          let (v, rest) ← readValue fuel depth next
          readItems fuel depth false (v :: acc) rest
      else faultNext .expectedListCommaOrEnd (c :: rest)

/-- Reads the members of an object after its opening brace; `acc` holds those read, last
first, and `first` says whether none has been read. -/
def readMembers : Nat → Nat → Bool → List (String × Json) → List Char →
    Except ReadError (Json × List Char)
  | 0, _, _, _, cs => faultNext .recursionLimit cs
  | fuel + 1, depth, first, acc, cs =>
    match skipBlank cs with
    | [] => faultNext .eofObject []
    | '}' :: rest => .ok (.obj acc.reverse, rest)
    | c :: rest => do
      let keyStart ←
        if first then pure (c :: rest)
        else if c = ',' then pure (skipBlank rest)
        else faultNext .expectedObjectCommaOrEnd (c :: rest)
      match keyStart with
      | [] => faultNext .eofValue []
      | '"' :: rest =>
        let (k, rest) ← readString rest
        match skipBlank rest with
        | [] => faultNext .eofObject []
        | ':' :: rest =>
          let (v, rest) ← readValue fuel depth rest
          readMembers fuel depth false (putMember k v acc) rest
        | other => faultNext .expectedColon other
      | '}' :: more => faultNext .trailingComma ('}' :: more)
      | other => faultNext .keyMustBeString other

end

def parse (s : String) : Except String Json :=
  let cs := s.toList
  match readValue (2 * cs.length + 2) 0 cs with
  | .error e => .error (e.message s)
  | .ok (v, rest) =>
    match skipBlank rest with
    | [] => .ok v
    | more => .error (ReadError.message s ⟨.trailingCharacters, more, 1⟩)

end Json

end SwapDesk

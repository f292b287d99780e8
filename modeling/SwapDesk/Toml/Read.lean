import SwapDesk.Toml.Tree
import SwapDesk.Decimal.Read

/-! # Reading settings documents

The reader decides each line, and each value, by its next character, and stops at the first it
cannot accept with a `Failure` naming what it was reading and what it expected. Nesting is
bounded by `nestingLimit`, and every loop by the length of the text.
-/

namespace SwapDesk.Toml

structure Cursor where
  rest : List Char
  pos : Nat

structure Failure where
  offset : Nat
  /-- what was being read, as in `invalid table header` -/
  label : Option String := none
  /-- what would have been accepted at the offset -/
  expected : List String := []
  /-- a further reason, such as a duplicate key -/
  cause : Option String := none
  /-- whether enclosing rules must not try an alternative -/
  final : Bool := false

def Failure.message (f : Failure) : String :=
  "\n".intercalate ((match f.label with | some l => ["invalid " ++ l] | none => []) ++
    (if f.expected.isEmpty then [] else ["expected " ++ ", ".intercalate f.expected]) ++
    f.cause.toList)

abbrev Scan := StateT Cursor (Except Failure)

/-! ## Steps -/

def peek : Scan (Option Char) := return (← get).rest.head?

def peekTwo : Scan (List Char) := return (← get).rest.take 2

def here : Scan Nat := return (← get).pos

def advance : Scan Unit :=
  modify fun c => match c.rest with
    | [] => c
    | _ :: r => ⟨r, c.pos + 1⟩

def stop {α : Type} (f : Failure := { offset := 0 }) : Scan α := do
  throw { f with offset := ← here }

def commit {α : Type} (p : Scan α) : Scan α :=
  tryCatch p fun f => throw { f with final := true }

/-- Runs a step, or goes back to where it started when it fails recoverably. -/
def attempt {α : Type} (p : Scan α) : Scan (Option α) :=
  tryCatch (some <$> p) fun f => if f.final then throw f else pure none

/-- Names what a failing step was reading, unless an inner step already did. -/
def labeled {α : Type} (l : String) (p : Scan α) : Scan α :=
  tryCatch p fun f => throw { f with label := f.label <|> some l }

def expecting {α : Type} (es : List String) (p : Scan α) : Scan α :=
  tryCatch p fun f => throw { f with expected := f.expected ++ es }

def takeWhile (p : Char → Bool) : Scan (List Char) := do
  let c ← get
  let taken := c.rest.takeWhile p
  set (⟨c.rest.drop taken.length, c.pos + taken.length⟩ : Cursor)
  return taken

def char (c : Char) : Scan Unit := do
  if (← peek) == some c then advance else stop

def charWith (p : Char → Bool) : Scan Char := do
  match ← peek with
  | some c => if p c then advance *> pure c else stop
  | none => stop

def atEnd : Scan Unit := do
  if (← peek).isSome then stop

/-! ## Blanks, comments and line ends -/

def isSpace (c : Char) : Bool := c == ' ' || c == '\t'

def isCommentChar (c : Char) : Bool :=
  c == '\t' || (0x20 ≤ c.toNat && c.toNat ≤ 0x7E) || 0x80 ≤ c.toNat

def blanks : Scan Unit := discard (takeWhile isSpace)

def comment : Scan Unit := do
  char '#'
  discard (takeWhile isCommentChar)

/-- A line feed, alone or after a carriage return. A carriage return without a line feed
is taken before the reader fails. -/
def newline : Scan Unit := do
  match ← peekTwo with
  | ['\n', _] | ['\n'] => advance
  | ['\r', '\n'] => advance *> advance
  | ['\r', _] | ['\r'] => advance *> stop
  | _ => stop

/-- A line break or the end of the text; failing, the reader stays where the line should
have ended. -/
def lineEnd : Scan Unit := do
  if (← peek).isNone then return
  if (← attempt newline).isNone then stop

def lineRest : Scan Unit := do
  blanks
  if (← peek) == some '#' then comment
  lineEnd

/-- Blanks, line breaks and comments, as between the items of an array. A comment must
end its line: a comment at the end of the text, or one that stops at a character a comment
cannot hold, fails where it stops. -/
def layout : Nat → Scan Unit
  | 0 => pure ()
  | fuel + 1 => do
    blanks
    match ← peek with
    | some '#' => comment *> newline *> layout fuel
    | some '\n' | some '\r' => newline *> layout fuel
    | _ => pure ()

def skipLayout : Scan Unit := do layout ((← get).rest.length)

/-! ## Strings -/

def isBasicChar (c : Char) : Bool :=
  let n := c.toNat
  c == '\t' || n == 0x20 || n == 0x21 || (0x23 ≤ n && n ≤ 0x5B) || (0x5D ≤ n && n ≤ 0x7E) ||
    0x80 ≤ n

def isLiteralChar (c : Char) : Bool :=
  let n := c.toNat
  c == '\t' || (0x20 ≤ n && n ≤ 0x26) || (0x28 ≤ n && n ≤ 0x7E) || 0x80 ≤ n

def hexValue (c : Char) : Option Nat :=
  if c.isDigit then some (c.toNat - '0'.toNat)
  else if 'a' ≤ c && c ≤ 'f' then some (c.toNat - 'a'.toNat + 10)
  else if 'A' ≤ c && c ≤ 'F' then some (c.toNat - 'A'.toNat + 10)
  else none

def digitsValue (base : Nat) (ds : List Char) : Nat :=
  ds.foldl (fun acc c => base * acc + (hexValue c).getD 0) 0

def hexEscape (n : Nat) : Scan Char := do
  let start ← here
  let ds := ((← get).rest.takeWhile fun c => (hexValue c).isSome).take n
  let v := digitsValue 16 ds
  let label := some ("unicode " ++ toString n ++ "-digit hex code")
  if ds.length != n then throw { offset := start, label, final := true }
  else if !v.isValidChar then
    throw { offset := start, label, cause := some "value is out of range", final := true }
  else
    for _ in ds do advance
    return Char.ofNat v

/-- The character after a backslash. A backslash at the end of the text is no escape. An
unknown escape is reported after its character when that is ASCII, and at it otherwise:
the reader steps by bytes, and a report inside a character moves back to its start. -/
def escape : Scan Char := do
  char '\\'
  match ← peek with
  | some 'b' => advance *> pure '\x08'
  | some 'f' => advance *> pure '\x0c'
  | some 'n' => advance *> pure '\n'
  | some 'r' => advance *> pure '\r'
  | some 't' => advance *> pure '\t'
  | some '\\' => advance *> pure '\\'
  | some '"' => advance *> pure '"'
  | some 'u' => advance *> hexEscape 4
  | some 'U' => advance *> hexEscape 8
  | none => stop
  | some c =>
    if c.toNat < 128 then advance
    throw
      { offset := ← here, label := some "escape sequence", final := true,
        expected := ["`b`", "`f`", "`n`", "`r`", "`t`", "`u`", "`U`", "`\\`", "`\"`"] }

def basicChars : Nat → List Char → Scan (List Char)
  | 0, acc => pure acc.reverse
  | fuel + 1, acc => do
    match ← peek with
    | some '\\' =>
      match ← attempt escape with
      | some e => basicChars fuel (e :: acc)
      | none => pure acc.reverse
    | some c => if isBasicChar c then advance *> basicChars fuel (c :: acc) else pure acc.reverse
    | none => pure acc.reverse

def basicString : Scan String := do
  char '"'
  let cs ← basicChars (← get).rest.length []
  labeled "basic string" (commit (char '"'))
  return String.ofList cs

def literalString : Scan String := do
  char '\''
  let cs ← takeWhile isLiteralChar
  labeled "literal string" (commit (char '\''))
  return String.ofList cs

/-- After a backslash that ends a line: the blanks and line breaks it removes. -/
def skipFolded : Nat → Scan Unit
  | 0 => pure ()
  | fuel + 1 => do
    match (← get).rest with
    | ' ' :: _ | '\t' :: _ | '\n' :: _ => advance *> skipFolded fuel
    | '\r' :: '\n' :: _ => advance *> advance *> skipFolded fuel
    | _ => pure ()

/-- Whether a backslash starts a folded line end: blanks, then a line break. -/
def foldsLine (rest : List Char) : Bool :=
  match (rest.drop 1).dropWhile isSpace with
  | '\n' :: _ | '\r' :: '\n' :: _ => true
  | _ => false

def literal (cs : List Char) : Scan Unit := do
  if (← get).rest.take cs.length == cs then
    for _ in cs do advance
  else stop

/-- One or two quotes `q` inside a multi-line body, taken only when `next` accepts what
follows them; two are tried first. -/
def bodyQuotes (q : Char) (next : List Char → Bool) : Scan (List Char) := do
  match (← get).rest with
  | a :: b :: more =>
    if a == q && b == q && next more then advance *> advance *> pure [q, q]
    else if a == q && next (b :: more) then advance *> pure [q]
    else stop
  | [a] => if a == q && next [] then advance *> pure [q] else stop
  | [] => stop

def startsOtherThan (q : Char) : List Char → Bool
  | c :: _ => c != q
  | [] => false

/-- The body of a multi-line string closed by three `q`: pieces read by `piece`, one or two
quotes where a piece follows them, and one or two quotes right before the closing three.
Quotes anywhere else end the body. -/
def multiBody (q : Char) (piece : Scan (List Char)) : Nat → List Char → Scan (List Char)
  | 0, acc => pure acc.reverse
  | fuel + 1, acc => do
    match ← attempt piece with
    | some cs => multiBody q piece fuel (cs.reverse ++ acc)
    | none =>
      match ← attempt (do let qs ← bodyQuotes q (startsOtherThan q); return qs ++ (← piece)) with
      | some cs => multiBody q piece fuel (cs.reverse ++ acc)
      | none =>
        match ← attempt (bodyQuotes q fun more => more.take 3 == [q, q, q]) with
        | some qs => pure (qs.reverse ++ acc).reverse
        | none => pure acc.reverse

/-- A piece of a multi-line basic string: a character held as itself, a line break, a
backslash that folds a line end, or an escape. -/
def multiBasicPiece : Scan (List Char) := do
  let c ← get
  match c.rest with
  | '\\' :: _ =>
    if foldsLine c.rest then advance *> skipFolded c.rest.length *> pure []
    else do return [← escape]
  | '\n' :: _ => advance *> pure ['\n']
  | '\r' :: '\n' :: _ => advance *> advance *> pure ['\n']
  | ch :: _ => if isBasicChar ch then advance *> pure [ch] else stop
  | [] => stop

/-- A multi-line basic string: `"""…"""`, a line break right after the opening quotes
dropped. -/
def multiBasicString : Scan String := do
  literal ['"', '"', '"']
  discard (attempt newline)
  let cs ← multiBody '"' multiBasicPiece (← get).rest.length []
  labeled "multiline basic string" (commit (literal ['"', '"', '"']))
  return String.ofList cs

def multiLiteralPiece : Scan (List Char) := do
  match (← get).rest with
  | '\n' :: _ => advance *> pure ['\n']
  | '\r' :: '\n' :: _ => advance *> advance *> pure ['\n']
  | ch :: _ => if isLiteralChar ch then advance *> pure [ch] else stop
  | [] => stop

def multiLiteralString : Scan String := do
  literal ['\'', '\'', '\'']
  discard (attempt newline)
  let cs ← multiBody '\'' multiLiteralPiece (← get).rest.length []
  labeled "multiline literal string" (commit (literal ['\'', '\'', '\'']))
  return String.ofList cs

def string : Scan String := do
  match (← get).rest with
  | '"' :: '"' :: '"' :: _ => multiBasicString
  | '"' :: _ => basicString
  | '\'' :: '\'' :: '\'' :: _ => multiLiteralString
  | _ => literalString

/-! ## Keys -/

def simpleKey : Scan (String × Span) := do
  let start ← here
  let k ← match ← peek with
    | some '"' => basicString
    | some '\'' => literalString
    | _ => do
      let cs ← takeWhile isBareKeyChar
      if cs.isEmpty then stop
      pure (String.ofList cs)
  return (k, ⟨start, ← here⟩)

def moreKeys : Nat → List (String × Span) → Scan (List (String × Span))
  | 0, acc => pure acc.reverse
  | fuel + 1, acc => do
    match ← attempt (char '.' *> blanks *> simpleKey <* blanks) with
    | some k => moreKeys fuel (k :: acc)
    | none => pure acc.reverse

/-- How many parts a dotted key may have, and how deep arrays and inline tables may nest,
less one. -/
def nestingLimit : Nat := 80

/-- The failure of nesting too deep: recoverable for a key, final for a value. -/
def recursionLimit : String := "recursion limit exceeded"

/-- A dotted key, blanks around each part allowed. A key of `nestingLimit` parts or more
fails where it starts. -/
def key : Scan (List (String × Span)) := do
  let start ← here
  let keys ← labeled "key" do
    blanks
    let k ← simpleKey
    blanks
    moreKeys (← get).rest.length [k]
  if nestingLimit ≤ keys.length then throw { offset := start, cause := some recursionLimit }
  return keys

/-! ## Numbers and date-times -/

/-- Digits with single underscores between them, at least one digit. -/
def digitRun (isDigit : Char → Bool) : Nat → List Char → Scan (List Char)
  | 0, acc => pure acc.reverse
  | fuel + 1, acc => do
    match (← get).rest with
    | '_' :: c :: _ =>
      if isDigit c then advance *> advance *> digitRun isDigit fuel (c :: acc)
      else do
        advance
        throw { offset := ← here, expected := ["digit"], final := true }
    | ['_'] => do
      advance
      throw { offset := ← here, expected := ["digit"], final := true }
    | c :: _ => if isDigit c then advance *> digitRun isDigit fuel (c :: acc) else pure acc.reverse
    | [] => pure acc.reverse

def zeroPrefixable : Scan (List Char) := do
  let d ← charWith Char.isDigit
  digitRun Char.isDigit (← get).rest.length [d]

/-- An optional sign and a decimal whole number without leading zeros. -/
def decimalInt : Scan (Bool × List Char) := labeled "integer" do
  let neg ← match ← peek with
    | some '+' => advance *> pure false
    | some '-' => advance *> pure true
    | _ => pure false
  match ← peek with
  | some '0' => advance *> pure (neg, ['0'])
  | some c =>
    if c.isDigit then do
      advance
      pure (neg, ← digitRun Char.isDigit (← get).rest.length [c])
    else stop
  | none => stop

/-- A whole number that fits in 64 signed bits, or the failure naming the overflow. -/
def wordOf (start : Nat) (neg : Bool) (n : Nat) : Scan Int :=
  if neg then
    if n ≤ Nat.pow 2 63 then pure (-(n : Int))
    else
      throw
        { offset := start, cause := some "number too small to fit in target type",
          final := true }
  else if n < Nat.pow 2 63 then pure n
  else
    throw
      { offset := start, cause := some "number too large to fit in target type",
        final := true }

def integer : Scan Int := do
  let start ← here
  let radix (base : Nat) (name : String) (isDigit : Char → Bool) : Scan Int := do
    advance *> advance
    let ds ← labeled name (commit do
      let d ← charWith isDigit
      digitRun isDigit (← get).rest.length [d])
    wordOf start false (digitsValue base ds)
  match ← peekTwo with
  | ['0', 'x'] => radix 16 "hexadecimal integer" fun c => (hexValue c).isSome
  | ['0', 'o'] => radix 8 "octal integer" fun c => '0' ≤ c && c ≤ '7'
  | ['0', 'b'] => radix 2 "binary integer" fun c => c == '0' || c == '1'
  | _ => do
    let (neg, ds) ← decimalInt
    wordOf start neg (digitsValue 10 ds)

def decimalFloat (neg : Bool) (digits : Nat) (exponent : Int) : Float :=
  if exponent ≥ 0 then nearestFloat neg (digits * Nat.pow 10 exponent.toNat) 1
  else nearestFloat neg digits (Nat.pow 10 (-exponent).toNat)

def specialFloat : Scan Float := do
  let neg ← match ← peek with
    | some '+' => advance *> pure false
    | some '-' => advance *> pure true
    | _ => pure false
  match (← get).rest with
  | 'i' :: 'n' :: 'f' :: _ =>
    advance *> advance *> advance
    pure (if neg then -(1.0 / 0.0) else 1.0 / 0.0)
  | 'n' :: 'a' :: 'n' :: _ => advance *> advance *> advance *> pure (0.0 / 0.0)
  | _ => stop

/-- A float: a decimal whole part with a fraction, an exponent or both, or `inf`, `nan`.
A finite text too large for a double is refused. -/
def float : Scan Float := labeled "floating-point number" do
  let start ← here
  match ← attempt decimalInt with
  | none => specialFloat
  | some (neg, whole) =>
    let frac ← match ← peek with
      | some '.' => do
        advance
        some <$> expecting ["digit"] (commit zeroPrefixable)
      | _ => pure none
    let expo ← match ← peek with
      | some 'e' | some 'E' => do
        advance
        let eneg ← match ← peek with
          | some '+' => advance *> pure false
          | some '-' => advance *> pure true
          | _ => pure false
        let ds ← commit zeroPrefixable
        let e : Int := digitsValue 10 ds
        pure (some (if eneg then -e else e))
      | _ => pure none
    if frac.isNone && expo.isNone then stop
    let fs := frac.getD []
    let x := decimalFloat neg (digitsValue 10 (whole ++ fs)) (expo.getD 0 - fs.length)
    if x == 1.0 / 0.0 then throw { offset := start, final := true }
    return x

def fixedDigits (n : Nat) : Scan Nat := do
  let ds := (← get).rest.take n
  if ds.length == n && ds.all Char.isDigit then
    for _ in ds do advance
    return digitsValue 10 ds
  else stop

def ranged (n : Nat) (lo hi : Nat) : Scan Nat := do
  let start ← here
  let v ← fixedDigits n
  if lo ≤ v && v ≤ hi then return v
  throw { offset := start, cause := some "value is out of range" }

def partialTime : Scan Unit := do
  discard (ranged 2 0 23)
  char ':'
  commit do
    discard (ranged 2 0 59)
    char ':'
    discard (ranged 2 0 60)
    discard (attempt (char '.' *> charWith Char.isDigit *> takeWhile Char.isDigit))

def timeOffset : Scan Unit := labeled "time offset" do
  match ← peek with
  | some 'Z' | some 'z' => advance
  | some '+' | some '-' => do
    advance
    commit do
      discard (ranged 2 0 23)
      char ':'
      discard (ranged 2 0 59)
  | _ => stop

def daysIn (y m : Nat) : Nat :=
  if m == 2 then (if y % 4 == 0 && (y % 100 != 0 || y % 400 == 0) then 29 else 28)
  else if m == 4 || m == 6 || m == 9 || m == 11 then 30 else 31

def dateTime : Scan Unit := do
  match ← attempt (fixedDigits 4 <* char '-') with
  | some y => labeled "date-time" do
    commit do
      let m ← ranged 2 1 12
      char '-'
      let start ← here
      let d ← ranged 2 1 31
      if d > daysIn y m then throw { offset := start, cause := some "value is out of range" }
    match (← get).rest with
    | 'T' :: _ | 't' :: _ | ' ' :: _ =>
      discard (attempt (advance *> partialTime *> discard (attempt timeOffset)))
    | _ => pure ()
  | none => labeled "time" partialTime

/-! ## Values -/

def noValue {α : Type} : Scan α :=
  stop { offset := 0, label := some "string", expected := ["`\"`", "`'`"] }

/-- A word such as `true`, or the failure for a value that cannot start here: final for
the booleans, whose first letter commits the reader. -/
def word (w : String) (final : Bool) : Scan Unit := do
  let cs := w.toList
  if (← get).rest.take cs.length == cs then
    for _ in cs do advance
  else if final then commit noValue
  else noValue

/-- The failure of nesting too deep, at the bracket or brace that opens one level too
many. -/
def tooDeep {α : Type} : Scan α :=
  stop { offset := 0, cause := some recursionLimit, final := true }

mutual

/-- A value of any kind with its span, `depth` arrays and inline tables around it. The
first character decides the kind; at the end of the text the failure names nothing. -/
def value : Nat → Nat → Scan Node
  | 0, _ => tooDeep
  | fuel + 1, depth => do
    let before ← get
    let start := before.pos
    let finish (v : Json) : Scan Node := do return .scalar v ⟨start, ← here⟩
    match ← peek with
    | some '"' | some '\'' => finish (.str (← string))
    | some '[' => if nestingLimit ≤ depth + 1 then tooDeep else array fuel (depth + 1)
    | some '{' => if nestingLimit ≤ depth + 1 then tooDeep else inlineTable fuel (depth + 1)
    | some 't' => word "true" true *> finish (.bool true)
    | some 'f' => word "false" true *> finish (.bool false)
    | some 'i' => word "inf" false *> finish (.float (1.0 / 0.0))
    | some 'n' => word "nan" false *> finish (.float (0.0 / 0.0))
    | some '_' => finish (.int (← expecting ["leading digit"] integer))
    | some '.' => finish (.float (← expecting ["leading digit"] float))
    | some c =>
      if c == '+' || c == '-' || c.isDigit then do
        if let some () ← attempt dateTime then
          let text := String.ofList (before.rest.take ((← here) - start))
          return .scalar (.obj [("$__toml_private_datetime", .str text)]) ⟨start, ← here⟩
        if let some x ← attempt float then return .scalar (.float x) ⟨start, ← here⟩
        finish (.int (← integer))
      else noValue
    | none => stop

def arrayItem : Nat → Nat → Scan Node
  | 0, _ => tooDeep
  | fuel + 1, depth => skipLayout *> value fuel depth <* skipLayout

/-- The items of an array after the first, each after a comma. An item that fails
recoverably leaves the reader before its comma. -/
def arrayItems : Nat → Nat → List Node → Scan (List Node)
  | 0, _, _ => tooDeep
  | fuel + 1, depth, acc => do
    match ← attempt (char ',' *> arrayItem fuel depth) with
    | some v => arrayItems fuel depth (v :: acc)
    | none => pure acc.reverse

/-- An array: `[` values separated by commas, perhaps a trailing comma, `]`, layout
anywhere between. When the first item fails recoverably, the reader goes back to the
bracket and reads layout only. -/
def array : Nat → Nat → Scan Node
  | 0, _ => tooDeep
  | fuel + 1, depth => do
    let start ← here
    char '['
    let items ← commit do
      let items ← match ← attempt (arrayItem fuel depth) with
        | some v => arrayItems fuel depth [v]
        | none => pure []
      if !items.isEmpty then discard (attempt (char ','))
      skipLayout
      pure items
    commit (expecting ["`]`"] (labeled "array" (char ']')))
    return .array items ⟨start, ← here⟩

def inlinePair : Nat → Nat → Scan (List (String × Span) × String × Node)
  | 0, _ => tooDeep
  | fuel + 1, depth => do
    let keys ← key
    commit do
      expecting ["`.`", "`=`"] (char '=')
      blanks
      let v ← value fuel depth
      blanks
      let last := keys.getLastD ("", ⟨0, 0⟩)
      return (keys.dropLast, last.1, v)

def inlinePairs : Nat → Nat → List (List (String × Span) × String × Node) →
    Scan (List (List (String × Span) × String × Node))
  | 0, _, _ => tooDeep
  | fuel + 1, depth, acc => do
    match ← attempt (char ',' *> inlinePair fuel depth) with
    | some p => inlinePairs fuel depth (p :: acc)
    | none => pure acc.reverse

def inlineTable : Nat → Nat → Scan Node
  | 0, _ => tooDeep
  | fuel + 1, depth => do
    let start ← here
    char '{'
    let inner ← here
    let pairs ← commit do
      match ← attempt (inlinePair fuel depth) with
      | some p => inlinePairs fuel depth [p]
      | none => pure []
    blanks
    let es ← match inlineEntries pairs with
      | .ok es => pure es
      | .error f => throw { offset := inner, cause := some f.message, final := true }
    commit (expecting ["`\x7d`"] (labeled "inline table" (char '}')))
    return .table .inline ⟨start, ← here⟩ es

end

/-! ## Documents -/

/-- The document read so far: the root's entries and the path of the table that
`key = value` lines go to. -/
structure Draft where
  root : Entries := []
  current : List String := []

def keyValueLine (d : Draft) : Scan Draft := do
  let start ← here
  let keys ← key
  let v ← commit do
    expecting ["`.`", "`=`"] (char '=')
    blanks
    let v ← value (4 * (← get).rest.length + 4) 0
    expecting ["newline", "`#`"] lineRest
    pure v
  let last := keys.getLastD ("", ⟨0, 0⟩)
  match insertValue d.root d.current keys.dropLast last.1 v with
  | .ok root => return { d with root := root }
  | .error f => throw { offset := start, cause := some f.message, final := true }

def closeTwice : Scan Unit := do
  if (← get).rest.take 2 == [']', ']'] then advance *> advance else stop

/-- A `[header]` or `[[header]]` line, which makes its table the current one. -/
def headerLine (d : Draft) : Scan Draft := labeled "table header" do
  let start ← here
  -- the kind of header is told by two characters, so a lone `[` at the end fails at once
  if (← peekTwo).length < 2 then stop
  let twice := (← peekTwo) == ['[', '[']
  char '['
  if twice then char '['
  let keys ← commit key
  commit (expecting (if twice then ["`.`", "`]]`"] else ["`.`", "`]`"])
    (if twice then closeTwice else char ']'))
  let span : Span := ⟨start, ← here⟩
  commit (expecting ["newline", "`#`"] lineRest)
  let added := if twice then insertTables d.root keys span else insertHeader d.root keys span
  match added with
  | .ok root => return ⟨root, keys.map (·.1)⟩
  | .error f => throw { offset := start, cause := some f.message, final := true }

def lines : Nat → Draft → Scan Draft
  | 0, d => pure d
  | fuel + 1, d => do
    let d ← match ← peek with
      | none => return d
      | some '#' => commit (comment *> lineEnd) *> pure d
      | some '[' => commit (headerLine d)
      | some '\n' => advance *> pure d
      | some '\r' => do
        if (← attempt newline).isNone then stop
        pure d
      | some _ => commit (keyValueLine d)
    blanks
    lines fuel d

def read (text : String) : Except Failure Entries :=
  let cs := text.toList
  let start : Cursor := match cs with
    | '\uFEFF' :: rest => ⟨rest, 1⟩
    | _ => ⟨cs, 0⟩
  let whole : Scan Entries := do
    blanks
    let d ← lines cs.length.succ {}
    atEnd
    return d.root
  (whole.run' start)

end SwapDesk.Toml

import SwapDesk.Regex.Error
import SwapDesk.Text.Blank
import SwapDesk.Text.Property

/-! # Reading a pattern

One pass left to right, a fault reported where it is met; an unclosed group is reported at the
innermost open one. Back references and look-around are refused. The loops run on fuel from the
pattern's length, which every step shortens.
-/

namespace SwapDesk.Regex

structure Cursor where
  pos : Nat := 0
  /-- whether blanks and `#` comments are skipped, as the `x` flag asks -/
  skipSpace : Bool := false
  captures : Nat := 0
  names : List (String × Span) := []

abbrev Read := StateT Cursor (Except SyntaxError)

/-! ## Moving through the pattern -/

/-- The position after the blanks and `#` comments from `i` on; a comment runs through
the end of its line. -/
def skipBlanks (p : Array Char) (inComment : Bool) (i : Nat) : Nat :=
  if h : i < p.size then
    let c := p[i]
    if inComment then skipBlanks p (c != '\n') (i + 1)
    else if isBlank c then skipBlanks p false (i + 1)
    else if c = '#' then skipBlanks p true (i + 1)
    else i
  else i
termination_by p.size - i

def nextShown (p : Array Char) (inComment : Bool) (j : Nat) : Option Char :=
  if h : j < p.size then
    let c := p[j]
    if isBlank c then nextShown p inComment (j + 1)
    else if !inComment && c = '#' then nextShown p true (j + 1)
    else some c
  else none
termination_by p.size - j

def fail (kind : ErrorKind) (span : Span) : Read α := throw { kind, span }

def here : Read Nat := return (← get).pos

def moveTo (i : Nat) : Read Unit := modify fun c => { c with pos := i }

def current (p : Array Char) : Read (Option Char) := return p[(← get).pos]?

def atEnd (p : Array Char) : Read Bool := return p.size ≤ (← get).pos

def charSpan : Read Span := do let i ← here; return ⟨i, i + 1⟩

def emptySpan : Read Span := do let i ← here; return ⟨i, i⟩

def bump (p : Array Char) : Read Bool := do
  let i ← here
  if i < p.size then
    moveTo (i + 1)
    return i + 1 < p.size
  else return false

/-- Skips blanks and comments, under the `x` flag only. -/
def bumpSpace (p : Array Char) : Read Unit := do
  let c ← get
  if c.skipSpace then moveTo (skipBlanks p false c.pos)

def bumpAndSpace (p : Array Char) : Read Bool := do
  if !(← bump p) then return false
  bumpSpace p
  return !(← atEnd p)

def peek (p : Array Char) : Read (Option Char) := return p[(← get).pos + 1]?

/-- The next character that counts after the one under the reader: under the `x` flag
blanks and a first `#` are passed over, and if nothing else follows, the next character. -/
def peekSpace (p : Array Char) : Read (Option Char) := do
  let c ← get
  if !c.skipSpace then return p[c.pos + 1]?
  if p.size ≤ c.pos then return none
  return (nextShown p false (c.pos + 1)).orElse fun _ => p[c.pos + 1]?

def startsHere (p : Array Char) (s : List Char) : Read Bool := do
  let i ← here
  return s.zipIdx.all fun (c, k) => p[i + k]? = some c

def bumpIf (p : Array Char) (s : List Char) : Read Bool := do
  if ← startsHere p s then
    moveTo ((← here) + s.length)
    return true
  else return false

def slice (p : Array Char) (i j : Nat) : String := String.ofList ((p.toList.drop i).take (j - i))

/-! ## Escapes -/

def isMeta (c : Char) : Bool := "\\.+*?()|[]{}^$#&-~".toList.contains c

/-- Whether a backslash before a character means the character itself: a meta character,
or an ASCII character that is not a letter, a digit, `<` or `>`. -/
def isEscapeable (c : Char) : Bool :=
  isMeta c || (c.toNat < 128 && !c.isAlphanum && c != '<' && c != '>')

def hexValue? (c : Char) : Option Nat :=
  if c.isDigit then some (c.toNat - '0'.toNat)
  else if 'a' ≤ c ∧ c ≤ 'f' then some (c.toNat - 'a'.toNat + 10)
  else if 'A' ≤ c ∧ c ≤ 'F' then some (c.toNat - 'A'.toNat + 10)
  else none

def isScalar (n : Nat) : Bool := n < 0xD800 || (0xDFFF < n && n ≤ 0x10FFFF)

/-- Reads a fixed number of hex digits from `start`, blanks between them skipped under
the `x` flag; the reader stays on each digit until the next one is read. -/
def readHexDigits (p : Array Char) (isByte : Bool) (start : Nat) :
    Nat → Bool → Nat → Read Literal
  | 0, _, acc => do
    let _ ← bumpAndSpace p
    let stop ← here
    if isScalar acc then return ⟨⟨start, stop⟩, Char.ofNat acc, isByte⟩
    else fail .escapeHexInvalid ⟨start, stop⟩
  | n + 1, first, acc => do
    if !first then
      if !(← bumpAndSpace p) then fail .escapeUnexpectedEof (← emptySpan)
    match (← current p).bind hexValue? with
    | some v => readHexDigits p isByte start n false (16 * acc + v)
    | none => fail .escapeHexInvalidDigit (← charSpan)

def readHexBrace (p : Array Char) (brace : Nat) : Nat → List Nat → Read Literal
  | 0, _ => fail .escapeUnexpectedEof ⟨brace, brace⟩
  | fuel + 1, digits => do
    if (← bumpAndSpace p) && (← current p) != some '}' then
      match (← current p).bind hexValue? with
      | some v => readHexBrace p brace fuel (v :: digits)
      | none => fail .escapeHexInvalidDigit (← charSpan)
    else
      if ← atEnd p then fail .escapeUnexpectedEof ⟨brace, ← here⟩
      let stop ← here
      let _ ← bumpAndSpace p
      if digits.isEmpty then fail .escapeHexEmpty ⟨brace, ← here⟩
      let value := digits.foldr (fun v acc => 16 * acc + v) 0
      if isScalar value then return ⟨⟨brace + 1, ← here⟩, Char.ofNat value, false⟩
      else fail .escapeHexInvalid ⟨brace + 1, stop⟩

def readClassName (p : Array Char) : Nat → List Char → Read (List Char)
  | 0, _ => do fail .escapeUnexpectedEof (← emptySpan)
  | fuel + 1, name => do
    if (← bumpAndSpace p) && (← current p) != some '}' then
      match ← current p with
      | some c => readClassName p fuel (c :: name)
      | none => return name.reverse
    else return name.reverse

/-- The query of a Unicode class name in braces: a property and a value split at `!=`,
`:` or `=`, the first of these that occurs, or a name alone. The flag tells whether the
query is negated by `!=`. -/
def PropertyQuery.ofName (name : List Char) : PropertyQuery × Bool :=
  let text := String.ofList name
  match text.splitOn "!=" with
  | a :: rest@(_ :: _) => (.namedValue a ("!=".intercalate rest), true)
  | _ =>
    let splitAt (sep : Char) : Option PropertyQuery :=
      match name.splitOn sep with
      | a :: rest@(_ :: _) =>
        some (.namedValue (String.ofList a) (String.ofList ([sep].intercalate rest)))
      | _ => none
    ((splitAt ':').getD ((splitAt '=').getD (.named text)), false)

def readUnicodeClass (p : Array Char) (negated : Bool) : Read UnicodeClass := do
  if !(← bumpAndSpace p) then fail .escapeUnexpectedEof (← emptySpan)
  if (← current p) = some '{' then
    let start := (← here) + 1
    let name ← readClassName p (p.size + 1) []
    if ← atEnd p then fail .escapeUnexpectedEof (← emptySpan)
    let _ ← bump p
    let (query, flip) := PropertyQuery.ofName name
    return ⟨⟨start, ← here⟩, negated != flip, query⟩
  else
    let start ← here
    match ← current p with
    | some '\\' => fail .unicodeClassInvalid (← charSpan)
    | some c =>
      let _ ← bumpAndSpace p
      return ⟨⟨start, ← here⟩, negated, .oneLetter c⟩
    | none => fail .escapeUnexpectedEof (← emptySpan)

def isBoundaryNameChar (c : Char) : Bool := c.isAlpha || c = '-'

def readBoundaryName (p : Array Char) : Nat → List Char → Read (List Char)
  | 0, name => return name.reverse
  | fuel + 1, name => do
    match ← current p with
    | some c =>
      if isBoundaryNameChar c then
        let _ ← bumpAndSpace p
        readBoundaryName p fuel (c :: name)
      else return name.reverse
    | none => return name.reverse

/-- After `\b`, reads `{start}`, `{end}`, `{start-half}` or `{end-half}` if a brace and a
letter or hyphen follow; otherwise the reader goes back to the brace, which then opens a
count. -/
def readSpecialBoundary (p : Array Char) (escapeStart : Nat) : Read (Option AssertionKind) := do
  let brace ← here
  if !(← bumpAndSpace p) then fail .specialWordOrRepetitionUnexpectedEof ⟨escapeStart, ← here⟩
  let contents ← here
  match ← current p with
  | some c =>
    if !isBoundaryNameChar c then
      moveTo brace
      return none
  | none => pure ()
  let name ← readBoundaryName p (p.size + 1) []
  if (← current p) != some '}' then fail .specialWordBoundaryUnclosed ⟨brace, ← here⟩
  let stop ← here
  let _ ← bump p
  match String.ofList name with
  | "start" => return some .wordStart
  | "end" => return some .wordEnd
  | "start-half" => return some .wordStartHalf
  | "end-half" => return some .wordEndHalf
  | _ => fail .specialWordBoundaryUnrecognized ⟨contents, stop⟩

def controlChar? : Char → Option Char
  | 'a' => some '\x07'
  | 'f' => some '\x0C'
  | 't' => some '\t'
  | 'n' => some '\n'
  | 'r' => some '\r'
  | 'v' => some '\x0B'
  | _ => none

def perlClass? : Char → Option (PerlKind × Bool)
  | 'd' => some (.digit, false)
  | 'D' => some (.digit, true)
  | 's' => some (.space, false)
  | 'S' => some (.space, true)
  | 'w' => some (.word, false)
  | 'W' => some (.word, true)
  | _ => none

/-- Reads an escape, the reader on its backslash: a literal, an assertion or a class. -/
def readEscape (p : Array Char) : Read Node := do
  let start ← here
  if !(← bump p) then fail .escapeUnexpectedEof ⟨start, ← here⟩
  let some c ← current p | fail .escapeUnexpectedEof ⟨start, ← here⟩
  if c.isDigit then fail .unsupportedBackreference ⟨start, (← here) + 1⟩
  if c = 'x' ∨ c = 'u' ∨ c = 'U' then
    if !(← bumpAndSpace p) then fail .escapeUnexpectedEof (← emptySpan)
    let digits := if c = 'x' then 2 else if c = 'u' then 4 else 8
    let first ← here
    let lit ← if (← current p) = some '{' then readHexBrace p first (p.size + 1) []
      else readHexDigits p (c = 'x') first digits true 0
    return .literal { lit with span := ⟨start, lit.span.stop⟩ }
  if c = 'p' ∨ c = 'P' then
    let cls ← readUnicodeClass p (c = 'P')
    return .unicodeClass { cls with span := ⟨start, cls.span.stop⟩ }
  if let some (kind, negated) := perlClass? c then
    let _ ← bump p
    return .perlClass ⟨start, ← here⟩ kind negated
  let _ ← bump p
  let span : Span := ⟨start, ← here⟩
  if isEscapeable c then return .literal ⟨span, c, false⟩
  if let some ch := controlChar? c then return .literal ⟨span, ch, false⟩
  match c with
  | 'A' => return .assertion span .startText
  | 'z' => return .assertion span .endText
  | 'B' => return .assertion span .notWordBoundary
  | '<' => return .assertion span .wordStart
  | '>' => return .assertion span .wordEnd
  | 'b' =>
    if (← current p) = some '{' then
      match ← readSpecialBoundary p start with
      | some kind => return .assertion ⟨start, ← here⟩ kind
      | none => return .assertion span .wordBoundary
    else return .assertion span .wordBoundary
  | _ => fail .escapeUnrecognized span

def readPrimitive (p : Array Char) : Read Node := do
  let span ← charSpan
  match ← current p with
  | some '\\' => readEscape p
  | some '.' => let _ ← bump p; return .dot span
  | some '^' => let _ ← bump p; return .assertion span .startLine
  | some '$' => let _ ← bump p; return .assertion span .endLine
  | some c => let _ ← bump p; return .literal ⟨span, c, false⟩
  | none => fail .escapeUnexpectedEof span

/-! ## Repetitions -/

/-- Takes the item a repetition applies to: the last one read, which must not be a flag
setting. -/
def takeOperand : List Node → Read (Node × List Node)
  | [] => do fail .repetitionMissing (← emptySpan)
  | .setFlags .. :: _ | .empty _ :: _ => do fail .repetitionMissing (← emptySpan)
  | n :: rest => return (n, rest)

def readUncounted (p : Array Char) (op : RepeatOp) (items : List Node) : Read (List Node) := do
  let (operand, rest) ← takeOperand items
  let greedy ← if (← bump p) && (← current p) = some '?' then do
      let _ ← bump p
      pure false
    else pure true
  return .repetition ⟨operand.span.start, ← here⟩ op greedy operand :: rest

/-- Steps over characters while they satisfy a test, blanks after each skipped too if
`space` says so; gives the characters that passed the test. -/
def skipWhile (p : Array Char) (keep : Char → Bool) (space : Bool) : Nat → Read (List Char)
  | 0 => pure []
  | fuel + 1 => do
    match ← current p with
    | some c =>
      if keep c then
        let _ ← if space then bumpAndSpace p else bump p
        return c :: (← skipWhile p keep space fuel)
      else return []
    | none => return []

/-- Reads the digits of a count in braces, blanks allowed around them; the fault, if
any, is returned rather than raised, since a missing lower bound is reported only once the
rest of the count is known. -/
def readDecimal (p : Array Char) : Read (Except SyntaxError Nat) := do
  let _ ← skipWhile p isBlank false (p.size + 1)
  let start ← here
  let digits ← skipWhile p Char.isDigit true (p.size + 1)
  let stop ← here
  let _ ← skipWhile p isBlank true (p.size + 1)
  if digits.isEmpty then return .error ⟨.repetitionCountDecimalEmpty, ⟨start, stop⟩, none⟩
  let value := digits.foldl (fun acc d => 10 * acc + (d.toNat - '0'.toNat)) 0
  if value < Nat.pow 2 32 then return .ok value
  else return .error ⟨.decimalInvalid, ⟨start, stop⟩, none⟩

def readCounted (p : Array Char) (items : List Node) : Read (List Node) := do
  let start ← here
  let (operand, rest) ← takeOperand items
  let unclosed : Read Unit := do fail .repetitionCountUnclosed ⟨start, ← here⟩
  if !(← bumpAndSpace p) then unclosed
  let low ← readDecimal p
  if ← atEnd p then unclosed
  let op ← if (← current p) = some ',' then do
      if !(← bumpAndSpace p) then unclosed
      if (← current p) != some '}' then
        let m ← liftExcept low
        let n ← liftExcept (← readDecimal p)
        pure (RepeatOp.between m n)
      else
        let m ← liftExcept low
        pure (RepeatOp.atLeast m)
    else do
      let m ← liftExcept low
      pure (RepeatOp.exactly m)
  if (← current p) != some '}' then unclosed
  let greedy ← if (← bumpAndSpace p) && (← current p) = some '?' then do
      let _ ← bump p
      pure false
    else pure true
  let stop ← here
  match op with
  | .between m n => if n < m then fail .repetitionCountInvalid ⟨start, stop⟩
  | _ => pure ()
  return .repetition ⟨operand.span.start, stop⟩ op greedy operand :: rest
where
  liftExcept {α : Type} : Except SyntaxError α → Read α
    | .ok a => pure a
    | .error e => throw e

/-! ## Classes in brackets -/

structure Union where
  span : Span
  items : List ClassItem

def Union.push (u : Union) (i : ClassItem) : Union :=
  { span := ⟨if u.items.isEmpty then i.span.start else u.span.start, i.span.stop⟩,
    items := u.items ++ [i] }

def Union.toItem (u : Union) : ClassItem :=
  match u.items with
  | [] => .empty u.span
  | [i] => i
  | _ => .union u.span u.items

/-- What encloses the level of a class being read: an open bracket, with the level
around it, or an operator with its left side. -/
inductive ClassFrame where
  | opened (outer : Union) (start openStop : Nat) (negated : Bool)
  | operator (op : SetOp) (lhs : ClassSet)

/-- The fault of a class that the end of the pattern finds open: at the opening of the
innermost open bracket. -/
def unclosedClass : List ClassFrame → Read α
  | [] => do fail .classUnclosed (← emptySpan)
  | .opened _ start stop _ :: _ => fail .classUnclosed ⟨start, stop⟩
  | .operator .. :: rest => unclosedClass rest

def joinOperator (stack : List ClassFrame) (rhs : ClassSet) : List ClassFrame × ClassSet :=
  match stack with
  | .operator op lhs :: rest => (rest, .binaryOp ⟨lhs.span.start, rhs.span.stop⟩ op lhs rhs)
  | _ => (stack, rhs)

/-- Reads the opening of a class, the reader on its `[`: a caret for the complement, then
`-` and a first `]` as literals. -/
def readClassOpen (p : Array Char) : Read (Nat × Nat × Bool × Union) := do
  let start ← here
  if !(← bumpAndSpace p) then fail .classUnclosed ⟨start, ← here⟩
  let negated ← if (← current p) = some '^' then do
      if !(← bumpAndSpace p) then fail .classUnclosed ⟨start, ← here⟩
      pure true
    else pure false
  let union ← readDashes p start (p.size + 1) ⟨← emptySpan, []⟩
  let union ← if union.items.isEmpty && (← current p) = some ']' then do
      let u := union.push (.literal ⟨← charSpan, ']', false⟩)
      if !(← bumpAndSpace p) then fail .classUnclosed ⟨start, ← here⟩
      pure u
    else pure union
  return (start, ← here, negated, union)
where
  readDashes (p : Array Char) (start : Nat) : Nat → Union → Read Union
    | 0, u => pure u
    | fuel + 1, u => do
      if (← current p) = some '-' then
        let u := u.push (.literal ⟨← charSpan, '-', false⟩)
        if !(← bumpAndSpace p) then fail .classUnclosed ⟨start, start⟩
        readDashes p start fuel u
      else pure u

/-- Reads a class such as `[:alpha:]` or `[:^space:]`, the reader on its `[`; if it is not
one, the reader goes back and nothing is read. -/
def readAsciiClass (p : Array Char) : Read (Option ClassItem) := do
  let start ← here
  let back : Read (Option ClassItem) := do moveTo start; return none
  if !(← bump p) || (← current p) != some ':' then return ← back
  if !(← bump p) then return ← back
  let negated := (← current p) = some '^'
  if negated then
    if !(← bump p) then return ← back
  let nameStart ← here
  let _ ← skipWhile p (· != ':') false (p.size + 1)
  if ← atEnd p then return ← back
  let name := slice p nameStart (← here)
  if !(← bumpIf p [':', ']']) then return ← back
  match AsciiKind.ofName? name with
  | some kind => return some (.ascii ⟨start, ← here⟩ kind negated)
  | none => back

def readClassAtom (p : Array Char) : Read Node := do
  match ← current p with
  | some '\\' => readEscape p
  | some c =>
    let span ← charSpan
    let _ ← bump p
    return .literal ⟨span, c, false⟩
  | none => fail .classUnclosed (← emptySpan)

def Node.toClassItem : Node → Read ClassItem
  | .literal l => return .literal l
  | .perlClass s k n => return .perl s k n
  | .unicodeClass c => return .unicode c
  | n => fail .classEscapeInvalid n.span

def Node.toRangeEnd : Node → Read Literal
  | .literal l => return l
  | n => fail .classRangeLiteral n.span

/-- Reads an item of a class, or a range `a-z` whose ends are literals in order. A `-`
before `]` or before another `-` is no range. -/
def readClassRange (p : Array Char) (stack : List ClassFrame) : Read ClassItem := do
  let first ← readClassAtom p
  bumpSpace p
  if ← atEnd p then unclosedClass stack
  let next ← peekSpace p
  if (← current p) != some '-' || next = some ']' || next = some '-' then
    return ← first.toClassItem
  if !(← bumpAndSpace p) then unclosedClass stack
  let last ← readClassAtom p
  let span : Span := ⟨first.span.start, last.span.stop⟩
  let a ← first.toRangeEnd
  let b ← last.toRangeEnd
  if b.char < a.char then fail .classRangeInvalid span
  return .range span a b

/-- Reads a class in brackets, the reader on its `[`, with the frames that enclose the
level being read and the items of that level. -/
def readClass (p : Array Char) : Nat → List ClassFrame → Union → Read Node
  | 0, stack, _ => unclosedClass stack
  | fuel + 1, stack, union => do
    bumpSpace p
    let some c ← current p | unclosedClass stack
    let op? : Option SetOp :=
      if c = '&' then some .intersection
      else if c = '-' then some .difference
      else if c = '~' then some .symmetricDifference
      else none
    if c = '[' then
      let ascii ← if stack.isEmpty then pure none else readAsciiClass p
      match ascii with
      | some cls => readClass p fuel stack (union.push cls)
      | none =>
        let (start, stop, negated, inner) ← readClassOpen p
        readClass p fuel (.opened union start stop negated :: stack) inner
    else if c = ']' then
      match joinOperator stack (.item union.toItem) with
      | (.opened outer start _ negated :: rest, set) =>
        let _ ← bump p
        let span : Span := ⟨start, ← here⟩
        if rest.isEmpty then return .bracketed span negated set
        else readClass p fuel rest (outer.push (.bracketed span negated set))
      | (rest, _) => unclosedClass rest
    else if let some op := op? then
      if (← peek p) = some c then
        let _ ← bump p
        let _ ← bump p
        let (rest, lhs) := joinOperator stack (.item union.toItem)
        readClass p fuel (.operator op lhs :: rest) ⟨← emptySpan, []⟩
      else readClass p fuel stack (union.push (← readClassRange p stack))
    else readClass p fuel stack (union.push (← readClassRange p stack))

/-! ## Groups -/

def flagOf? : Char → Option Flag
  | 'i' => some .caseInsensitive
  | 'm' => some .multiLine
  | 's' => some .dotMatchesNewLine
  | 'U' => some .swapGreed
  | 'u' => some .unicode
  | 'R' => some .crlf
  | 'x' => some .ignoreWhitespace
  | _ => none

/-- Reads flags up to `:` or `)`: each flag at most once, one minus sign at most, and
a flag after the minus sign. -/
def readFlags (p : Array Char) : Nat → Flags → Option Span → Read Flags
  | 0, fs, _ => return fs
  | fuel + 1, fs, dangling => do
    let c ← current p
    if c = some ':' ∨ c = some ')' then
      if let some s := dangling then fail .flagDanglingNegation s
      return fs
    let span ← charSpan
    let (item, dangling) ← match c with
      | some '-' => pure (FlagItem.negation, some span)
      | some ch =>
        match flagOf? ch with
        | some f => pure (FlagItem.flag f, none)
        | none => fail .flagUnrecognized span
      | none => fail .flagUnexpectedEof span
    if let some (_, first) := fs.find? (·.1 = item) then
      let kind := if item = .negation then ErrorKind.flagRepeatedNegation else .flagDuplicate
      throw { kind, span, first := some first }
    let fs := fs ++ [(item, span)]
    if !(← bump p) then fail .flagUnexpectedEof (← emptySpan)
    readFlags p fuel fs dangling

def isNameChar (c : Char) (first : Bool) : Bool :=
  if first then c = '_' || isAlphabetic c
  else c = '_' || c = '.' || c = '[' || c = ']' || isAlphanumeric c

def readGroupName (p : Array Char) : Read (String × Span) := do
  if ← atEnd p then fail .groupNameUnexpectedEof (← emptySpan)
  let start ← here
  scan start (p.size + 1)
  let stop ← here
  if ← atEnd p then fail .groupNameUnexpectedEof (← emptySpan)
  let _ ← bump p
  let name := slice p start stop
  if name.isEmpty then fail .groupNameEmpty ⟨start, start⟩
  let span : Span := ⟨start, stop⟩
  if let some (_, first) := (← get).names.find? (·.1 = name) then
    throw { kind := .groupNameDuplicate, span, first := some first }
  modify fun c => { c with names := (name, span) :: c.names }
  return (name, span)
where
  scan (start : Nat) : Nat → Read Unit
    | 0 => pure ()
    | fuel + 1 => do
      match ← current p with
      | some '>' => pure ()
      | some c =>
        if !isNameChar c ((← here) = start) then fail .groupNameInvalid (← charSpan)
        if ← bump p then scan start fuel
      | none => pure ()

def nextCapture : Read Nat := do
  modify fun c => { c with captures := c.captures + 1 }
  return (← get).captures

inductive Opening where
  | setting (span : Span) (flags : Flags)
  | group (openSpan : Span) (kind : GroupKind)

def readOpening (p : Array Char) : Read Opening := do
  let openSpan ← charSpan
  let _ ← bump p
  bumpSpace p
  let lookAround ← ["?=", "?!", "?<=", "?<!"].anyM fun s => bumpIf p s.toList
  if lookAround then fail .unsupportedLookAround ⟨openSpan.start, ← here⟩
  let inner ← emptySpan
  let named ← if ← bumpIf p "?P<".toList then pure true else bumpIf p "?<".toList
  if named then
    let index ← nextCapture
    let (name, _) ← readGroupName p
    return .group openSpan (.named name index)
  if ← bumpIf p ['?'] then
    if ← atEnd p then fail .groupUnclosed openSpan
    let flags ← readFlags p (p.size + 1) [] none
    let closing ← current p
    let _ ← bump p
    if closing = some ')' then
      if flags.isEmpty then fail .repetitionMissing inner
      return .setting ⟨openSpan.start, ← here⟩ flags
    return .group openSpan (.nonCapturing flags)
  return .group openSpan (.capture (← nextCapture))

inductive BranchEnd where
  | bar
  | close
  | finish

def concatNode (span : Span) : List Node → Node
  | [] => .empty span
  | [n] => n
  | items => .concat span items

mutual

/-- Reads the items of a branch up to `|`, `)` or the end, `items` holding those read so
far, the last first. -/
def readItems (p : Array Char) : Nat → List Node → Read (List Node × BranchEnd)
  | 0, items => return (items, .finish)
  | fuel + 1, items => do
    bumpSpace p
    let some c ← current p | return (items, .finish)
    match c with
    | ')' => return (items, .close)
    | '|' => return (items, .bar)
    | '(' =>
      match ← readOpening p with
      | .setting span flags =>
        if let some v := flagState flags .ignoreWhitespace then
          modify fun cur => { cur with skipSpace := v }
        readItems p fuel (.setFlags span flags :: items)
      | .group openSpan kind =>
        let saved := (← get).skipSpace
        let inside := ((kind.flags?).bind (flagState · .ignoreWhitespace)).getD saved
        modify fun cur => { cur with skipSpace := inside }
        let body ← readBranches p fuel (some openSpan) (← here) []
        modify fun cur => { cur with skipSpace := saved }
        let _ ← bump p
        readItems p fuel (.group ⟨openSpan.start, ← here⟩ kind body :: items)
    | '[' => readItems p fuel ((← readClass p (p.size + 1) [] ⟨← emptySpan, []⟩) :: items)
    | '?' => readItems p fuel (← readUncounted p .zeroOrOne items)
    | '*' => readItems p fuel (← readUncounted p .zeroOrMore items)
    | '+' => readItems p fuel (← readUncounted p .oneOrMore items)
    | '{' => readItems p fuel (← readCounted p items)
    | _ => readItems p fuel ((← readPrimitive p) :: items)

/-- Reads the branches of a group, or of the whole pattern when `group` is none, up to
its `)` or the end; `start` is where the branches began and `done` holds the branches
read so far, the last first. -/
def readBranches (p : Array Char) : Nat → Option Span → Nat → List Node → Read Node
  | 0, group, _, _ => fail .groupUnclosed (group.getD ⟨p.size, p.size⟩)
  | fuel + 1, group, start, done => do
    let branchStart ← here
    let (items, ending) ← readItems p fuel []
    let stop ← here
    let branch := concatNode ⟨branchStart, stop⟩ items.reverse
    let whole : Node :=
      if done.isEmpty then branch else .alternation ⟨start, stop⟩ (done.reverse ++ [branch])
    match ending, group with
    | .bar, _ =>
      let _ ← bump p
      readBranches p fuel group start (branch :: done)
    | .close, none => fail .groupUnopened ⟨stop, stop + 1⟩
    | .close, some _ => return whole
    | .finish, some g => fail .groupUnclosed g
    | .finish, none => return whole

end

def parse (pattern : String) : Except SyntaxError Node :=
  let p := pattern.toList.toArray
  (readBranches p (2 * p.size + 4) none 0 []).run' {}

end SwapDesk.Regex

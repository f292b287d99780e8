/-! # The syntax tree of a regular expression

Every part of a pattern keeps its `Span`, where the checks after reading report their findings.
A class in brackets holds a `ClassSet`, items joined by `&&`, `--` and `~~`.
-/

namespace SwapDesk.Regex

/-- The characters of a pattern from position `start` up to, not including, `stop`;
positions count characters from zero. -/
structure Span where
  start : Nat
  stop : Nat
  deriving DecidableEq, Repr

def Span.before (a b : Span) : Bool := a.start < b.start || (a.start == b.start && a.stop < b.stop)

inductive Flag where
  | caseInsensitive
  | multiLine
  | dotMatchesNewLine
  | swapGreed
  | unicode
  | crlf
  | ignoreWhitespace
  deriving DecidableEq, Repr

inductive FlagItem where
  | negation
  | flag (f : Flag)
  deriving DecidableEq, Repr

abbrev Flags := List (FlagItem × Span)

/-- What a flag list says of a flag: on if named before a minus sign, off if after, and
nothing if not named. -/
def flagState (fs : Flags) (f : Flag) : Option Bool :=
  let rec go (negated : Bool) : Flags → Option Bool
    | [] => none
    | (.negation, _) :: rest => go true rest
    | (.flag g, _) :: rest => if g = f then some !negated else go negated rest
  go false fs

/-- A literal character. `byteEscape` marks the two-digit form `\xNN`, which names a
byte when Unicode is off. -/
structure Literal where
  span : Span
  char : Char
  byteEscape : Bool := false
  deriving DecidableEq, Repr

inductive AssertionKind where
  | startLine
  | endLine
  | startText
  | endText
  | wordBoundary
  | notWordBoundary
  | wordStart
  | wordEnd
  | wordStartHalf
  | wordEndHalf
  deriving DecidableEq, Repr

def AssertionKind.looksAtWords : AssertionKind → Bool
  | .startLine | .endLine | .startText | .endText => false
  | _ => true

inductive PerlKind where
  | digit
  | space
  | word
  deriving DecidableEq, Repr

/-- The classes written `[:name:]` inside brackets. -/
inductive AsciiKind where
  | alnum | alpha | ascii | blank | cntrl | digit | graph | lower | print | punct | space
  | upper | word | xdigit
  deriving DecidableEq, Repr

def AsciiKind.ofName? : String → Option AsciiKind
  | "alnum" => some .alnum
  | "alpha" => some .alpha
  | "ascii" => some .ascii
  | "blank" => some .blank
  | "cntrl" => some .cntrl
  | "digit" => some .digit
  | "graph" => some .graph
  | "lower" => some .lower
  | "print" => some .print
  | "punct" => some .punct
  | "space" => some .space
  | "upper" => some .upper
  | "word" => some .word
  | "xdigit" => some .xdigit
  | _ => none

/-- How a Unicode class names its characters: one letter after `\p`, a name in braces,
or a property and a value in braces. -/
inductive PropertyQuery where
  | oneLetter (c : Char)
  | named (name : String)
  | namedValue (name value : String)
  deriving DecidableEq, Repr

/-- A Unicode class `\pL`, `\p{Greek}`, or its complement `\PL`. -/
structure UnicodeClass where
  span : Span
  negated : Bool
  query : PropertyQuery
  deriving DecidableEq, Repr

inductive SetOp where
  | intersection
  | difference
  | symmetricDifference
  deriving DecidableEq, Repr

inductive RepeatOp where
  | zeroOrOne
  | zeroOrMore
  | oneOrMore
  | exactly (n : Nat)
  | atLeast (n : Nat)
  | between (m n : Nat)
  deriving DecidableEq, Repr

/-- What a group is: numbered, numbered and named, or not capturing and perhaps setting
flags for its inside. -/
inductive GroupKind where
  | capture (index : Nat)
  | named (name : String) (index : Nat)
  | nonCapturing (flags : Flags)
  deriving DecidableEq, Repr

def GroupKind.flags? : GroupKind → Option Flags
  | .nonCapturing fs => some fs
  | _ => none

mutual

inductive Node where
  | empty (span : Span)
  /-- flags set for the rest of the enclosing group, `(?i)` -/
  | setFlags (span : Span) (flags : Flags)
  | literal (lit : Literal)
  | dot (span : Span)
  | assertion (span : Span) (kind : AssertionKind)
  | unicodeClass (cls : UnicodeClass)
  | perlClass (span : Span) (kind : PerlKind) (negated : Bool)
  | bracketed (span : Span) (negated : Bool) (set : ClassSet)
  | repetition (span : Span) (op : RepeatOp) (greedy : Bool) (inner : Node)
  | group (span : Span) (kind : GroupKind) (inner : Node)
  | alternation (span : Span) (branches : List Node)
  | concat (span : Span) (items : List Node)

inductive ClassSet where
  | item (i : ClassItem)
  | binaryOp (span : Span) (op : SetOp) (lhs rhs : ClassSet)

inductive ClassItem where
  | empty (span : Span)
  | literal (lit : Literal)
  | range (span : Span) (first last : Literal)
  | ascii (span : Span) (kind : AsciiKind) (negated : Bool)
  | unicode (cls : UnicodeClass)
  | perl (span : Span) (kind : PerlKind) (negated : Bool)
  | bracketed (span : Span) (negated : Bool) (set : ClassSet)
  | union (span : Span) (items : List ClassItem)

end

def Node.span : Node → Span
  | .empty s | .setFlags s _ | .dot s | .assertion s _ | .perlClass s _ _
  | .bracketed s _ _ | .repetition s _ _ _ | .group s _ _ | .alternation s _
  | .concat s _ => s
  | .literal l => l.span
  | .unicodeClass c => c.span

def ClassItem.span : ClassItem → Span
  | .empty s | .range s _ _ | .ascii s _ _ | .perl s _ _ | .bracketed s _ _ | .union s _ => s
  | .literal l => l.span
  | .unicode c => c.span

def ClassSet.span : ClassSet → Span
  | .item i => i.span
  | .binaryOp s _ _ _ => s

end SwapDesk.Regex

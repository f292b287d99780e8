import SwapDesk.Regex.Syntax

/-! # Why a pattern is refused, and how the refusal is shown

A fault is placed at a span of the pattern and shown with carets under it:

```text
regex parse error:
    a{5
     ^^
error: unclosed counted repetition
```

A pattern of several lines is shown between rules of tildes, each line after its number.
-/

namespace SwapDesk.Regex

inductive ErrorKind where
  | classEscapeInvalid
  | classRangeInvalid
  | classRangeLiteral
  | classUnclosed
  | decimalInvalid
  | escapeHexEmpty
  | escapeHexInvalid
  | escapeHexInvalidDigit
  | escapeUnexpectedEof
  | escapeUnrecognized
  | flagDanglingNegation
  | flagDuplicate
  | flagRepeatedNegation
  | flagUnexpectedEof
  | flagUnrecognized
  | groupNameDuplicate
  | groupNameEmpty
  | groupNameInvalid
  | groupNameUnexpectedEof
  | groupUnclosed
  | groupUnopened
  | nestLimitExceeded (limit : Nat)
  | repetitionCountInvalid
  | repetitionCountDecimalEmpty
  | repetitionCountUnclosed
  | repetitionMissing
  | specialWordBoundaryUnclosed
  | specialWordBoundaryUnrecognized
  | specialWordOrRepetitionUnexpectedEof
  | unicodeClassInvalid
  | unsupportedBackreference
  | unsupportedLookAround
  /-- a Unicode class where Unicode is turned off -/
  | unicodeNotAllowed
  /-- a part that can match bytes that are not UTF-8 -/
  | invalidUtf8
  /-- a Unicode class whose property is not known -/
  | unicodePropertyNotFound
  /-- a Perl class that needs Unicode tables -/
  | unicodePerlClassNotFound
  /-- case folding that needs Unicode tables -/
  | unicodeCaseUnavailable
  deriving DecidableEq, Repr

def ErrorKind.message : ErrorKind → String
  | .classEscapeInvalid => "invalid escape sequence found in character class"
  | .classRangeInvalid => "invalid character class range, the start must be <= the end"
  | .classRangeLiteral => "invalid range boundary, must be a literal"
  | .classUnclosed => "unclosed character class"
  | .decimalInvalid => "decimal literal invalid"
  | .escapeHexEmpty => "hexadecimal literal empty"
  | .escapeHexInvalid => "hexadecimal literal is not a Unicode scalar value"
  | .escapeHexInvalidDigit => "invalid hexadecimal digit"
  | .escapeUnexpectedEof => "incomplete escape sequence, reached end of pattern prematurely"
  | .escapeUnrecognized => "unrecognized escape sequence"
  | .flagDanglingNegation => "dangling flag negation operator"
  | .flagDuplicate => "duplicate flag"
  | .flagRepeatedNegation => "flag negation operator repeated"
  | .flagUnexpectedEof => "expected flag but got end of regex"
  | .flagUnrecognized => "unrecognized flag"
  | .groupNameDuplicate => "duplicate capture group name"
  | .groupNameEmpty => "empty capture group name"
  | .groupNameInvalid => "invalid capture group character"
  | .groupNameUnexpectedEof => "unclosed capture group name"
  | .groupUnclosed => "unclosed group"
  | .groupUnopened => "unopened group"
  | .nestLimitExceeded limit =>
    "exceed the maximum number of nested parentheses/brackets (" ++ toString limit ++ ")"
  | .repetitionCountInvalid => "invalid repetition count range, the start must be <= the end"
  | .repetitionCountDecimalEmpty => "repetition quantifier expects a valid decimal"
  | .repetitionCountUnclosed => "unclosed counted repetition"
  | .repetitionMissing => "repetition operator missing expression"
  | .specialWordBoundaryUnclosed =>
    "special word boundary assertion is either unclosed or contains an invalid character"
  | .specialWordBoundaryUnrecognized =>
    "unrecognized special word boundary assertion, valid choices are: start, end, " ++
      "start-half or end-half"
  | .specialWordOrRepetitionUnexpectedEof =>
    "found either the beginning of a special word boundary or a bounded repetition on " ++
      "a \\b with an opening brace, but no closing brace"
  | .unicodeClassInvalid => "invalid Unicode character class"
  | .unsupportedBackreference => "backreferences are not supported"
  | .unsupportedLookAround =>
    "look-around, including look-ahead and look-behind, is not supported"
  | .unicodeNotAllowed => "Unicode not allowed here"
  | .invalidUtf8 => "pattern can match invalid UTF-8"
  | .unicodePropertyNotFound => "Unicode property not found"
  | .unicodePerlClassNotFound =>
    "Unicode-aware Perl class not found (make sure the unicode-perl feature is enabled)"
  | .unicodeCaseUnavailable =>
    "Unicode-aware case insensitivity matching is not available (make sure the " ++
      "unicode-case feature is enabled)"

/-- A fault at a span of a pattern; `first` is the span of the earlier flag or name that
a duplicate repeats. -/
structure SyntaxError where
  kind : ErrorKind
  span : Span
  first : Option Span := none
  deriving DecidableEq, Repr

/-! ## Showing a fault -/

def lineColumn (cs : List Char) (i : Nat) : Nat × Nat :=
  (cs.take i).foldl (fun (l, c) ch => if ch = '\n' then (l + 1, 1) else (l, c + 1)) (1, 1)

def repeatChar (c : Char) (n : Nat) : String := String.ofList (List.replicate n c)

/-- The caret line under one line of a pattern: `pad` blanks, then for each span in order
blanks up to its column and a caret per character, one at least. -/
def caretLine (cs : List Char) (pad : Nat) (spans : List Span) : String :=
  let step := fun (acc : String × Nat) (s : Span) =>
    let startCol := (lineColumn cs s.start).2
    let stopCol := (lineColumn cs s.stop).2
    let blanks := startCol - 1 - acc.2
    let carets := max 1 (stopCol - startCol)
    (acc.1 ++ repeatChar ' ' blanks ++ repeatChar '^' carets, acc.2 + blanks + carets)
  repeatChar ' ' pad ++ (spans.foldl step ("", 0)).1

def sortSpans (spans : List Span) : List Span := spans.mergeSort fun a b => !b.before a

/-- The lines of a pattern, as a text splits into lines: at each newline, with a carriage
return right before it dropped, and no empty line after a final newline. -/
def patternLines (cs : List Char) : List (List Char) :=
  if cs.isEmpty then [] else
  let parts := cs.splitOn '\n'
  let ended := parts.dropLast.map fun l => if l.getLast? = some '\r' then l.dropLast else l
  let lines := ended ++ parts.getLast?.toList
  if cs.getLast? = some '\n' then lines.dropLast else lines

def SyntaxError.render (e : SyntaxError) (pattern : String) : String :=
  let cs := pattern.toList
  let spans := sortSpans (e.span :: e.first.toList)
  let lineOf (i : Nat) := (lineColumn cs i).1
  let oneLine := fun (s : Span) => lineOf s.start = lineOf s.stop
  let lines := patternLines cs
  if cs.contains '\n' then
    let count := if cs.getLast? = some '\n' then lines.length + 1 else lines.length
    let width := (toString count).length
    let numbered := (lines.zipIdx.map fun (l, i) =>
      let onLine := spans.filter fun s => oneLine s ∧ lineOf s.start = i + 1
      let number := toString (i + 1)
      repeatChar ' ' (width - number.length) ++ number ++ ": " ++ String.ofList l ++ "\n" ++
        (if onLine.isEmpty then "" else caretLine cs (2 + width) onLine ++ "\n"))
    let crossing := (spans.filter fun s => !oneLine s).map fun s =>
      let (l1, c1) := lineColumn cs s.start
      let (l2, c2) := lineColumn cs s.stop
      "on line " ++ toString l1 ++ " (column " ++ toString c1 ++ ") through line " ++
        toString l2 ++ " (column " ++ toString (c2 - 1) ++ ")"
    let rule := repeatChar '~' 79
    "regex parse error:\n" ++ rule ++ "\n" ++ String.join numbered ++ rule ++ "\n" ++
      (if crossing.isEmpty then "" else "\n".intercalate crossing ++ "\n") ++
      "error: " ++ e.kind.message
  else
    let shown := String.join (lines.map fun l =>
      "    " ++ String.ofList l ++ "\n" ++ caretLine cs 4 spans ++ "\n")
    "regex parse error:\n" ++ shown ++ "error: " ++ e.kind.message

end SwapDesk.Regex

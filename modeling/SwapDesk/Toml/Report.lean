import SwapDesk.Toml.Read

/-! # Reports of settings-file problems

A problem is reported with its line and column, the line under a numbered gutter, carets under
the offending text, and the reason:

```text
TOML parse error at line 2, column 8
  |
2 | seed = "not a number"
  |        ^^^^^^^^^^^^^^
invalid type: string "not a number", expected u64
```
-/

namespace SwapDesk.Toml

/-- The line and column, both from zero, of a character position. A position past the
last character stays on the last line, one column further for each character beyond.
Before a character beyond ASCII the column counts bytes. -/
def position (cs : List Char) (offset : Nat) : Nat × Nat :=
  if cs.isEmpty then (0, offset)
  else
    let safe := min offset (cs.length - 1)
    let before := cs.take safe
    let lineStart := before.length - (before.reverse.takeWhile (· != '\n')).length
    let line := ((cs.take lineStart).filter (· == '\n')).length
    let wide := offset < cs.length && 128 ≤ (cs.getD offset ' ').toNat
    (line, if wide then ((before.drop lineStart).map Char.utf8Size).foldr (· + ·) 0
      else safe - lineStart + (offset - safe))

def lineText (cs : List Char) : Nat → List Char
  | 0 => cs.takeWhile (· != '\n')
  | n + 1 => lineText ((cs.dropWhile (· != '\n')).drop 1) n

def charWidth (text : String) (offset : Nat) : Nat :=
  ((text.toList.drop offset).head?.map Char.utf8Size).getD 0

def spanWidth (text : String) (s : Span) : Nat :=
  (((text.toList.drop s.start).take (s.stop - s.start)).map Char.utf8Size).foldr (· + ·) 0

/-- A report: the place of `offset`, the line, `width` bytes of carets (at least one),
and the reason. -/
def report (text : String) (offset width : Nat) (reason : String) : String :=
  let cs := text.toList
  let (line, column) := position cs offset
  let number := toString (line + 1)
  let content := lineText cs line
  let carets := max 1 (min width ((String.ofList content).utf8ByteSize - column))
  let gutter := String.ofList (List.replicate (number.length + 1) ' ')
  "TOML parse error at line " ++ number ++ ", column " ++ toString (column + 1) ++ "\n" ++
    gutter ++ "|\n" ++
    number ++ " | " ++ String.ofList content ++ "\n" ++
    gutter ++ "|" ++ String.ofList (List.replicate (column + 1) ' ') ++
    String.ofList (List.replicate carets '^') ++ "\n" ++
    reason ++ "\n"

end SwapDesk.Toml

/-! # Blank characters

The Unicode `White_Space` property, used by trimming and by every reader of dates, numbers and
options.
-/

namespace SwapDesk

/-- The characters of the Unicode `White_Space` property. -/
def isBlank (c : Char) : Bool :=
  let n := c.toNat
  (0x09 ≤ n ∧ n ≤ 0x0D) ∨ n = 0x20 ∨ n = 0x85 ∨ n = 0xA0 ∨ n = 0x1680 ∨
    (0x2000 ≤ n ∧ n ≤ 0x200A) ∨ n = 0x2028 ∨ n = 0x2029 ∨ n = 0x202F ∨ n = 0x205F ∨
    n = 0x3000

def dropBlank (cs : List Char) : List Char := cs.dropWhile isBlank

def trimBlank (s : String) : String :=
  String.ofList (dropBlank (dropBlank s.toList).reverse).reverse

def trimBlankStart (s : String) : String := String.ofList (dropBlank s.toList)

/-- Every ASCII blank of core's `Char.isWhitespace` is blank here. -/
theorem isBlank_of_isWhitespace (c : Char) (h : c.isWhitespace = true) :
    isBlank c = true := by
  have hc : ((c = ' ' ∨ c = '\t') ∨ c = '\r') ∨ c = '\n' := by simpa [Char.isWhitespace] using h
  rcases hc with ((rfl | rfl) | rfl) | rfl <;> decide

end SwapDesk

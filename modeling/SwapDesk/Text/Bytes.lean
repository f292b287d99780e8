/-! # UTF-8 byte counts

Several formats count places in UTF-8 bytes while texts here are lists of characters.
-/

namespace SwapDesk

def byteCount (cs : List Char) : Nat := (cs.map Char.utf8Size).foldr (· + ·) 0

/-- How many characters from the front of a list take up exactly `n` bytes, if a
character boundary lies there. -/
def charsInBytes? : List Char → Nat → Option Nat
  | _, 0 => some 0
  | [], _ + 1 => none
  | c :: cs, n + 1 =>
    if c.utf8Size ≤ n + 1 then (charsInBytes? cs (n + 1 - c.utf8Size)).map (· + 1) else none

@[simp] theorem byteCount_nil : byteCount [] = 0 := rfl

@[simp] theorem byteCount_cons (c : Char) (cs : List Char) :
    byteCount (c :: cs) = c.utf8Size + byteCount cs := by
  simp [byteCount]

end SwapDesk

/-! # Padding to a width

Table cells are padded with blanks to a width counted in characters; a wider text is kept whole.
-/

namespace SwapDesk

def blanks (n : Nat) : String := String.ofList (List.replicate n ' ')

def padRight (s : String) (width : Nat) : String := s ++ blanks (width - s.length)

def padLeft (s : String) (width : Nat) : String := blanks (width - s.length) ++ s

end SwapDesk

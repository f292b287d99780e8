import SwapDesk.Ledger.Swap

/-! # The ledger

The ordered, read-only swaps the dashboard serves; lookup by id finds the first match.
-/

namespace SwapDesk

structure Ledger where
  swaps : List Swap := []

namespace Ledger

def size (l : Ledger) : Nat := l.swaps.length

def isEmpty (l : Ledger) : Bool := l.swaps.isEmpty

def get? (l : Ledger) (id : UInt32) : Option Swap := l.swaps.find? (·.id == id)

end Ledger

end SwapDesk

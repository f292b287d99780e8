/-! # Pages of a result

One page of a list: a size of zero counts as one, and the page number is clamped to the pages
that exist, of which there is always at least one.
-/

namespace SwapDesk

structure PageInfo where
  /-- first and last position shown, counted from 1; none for an empty result -/
  shown : Option (Nat × Nat)
  currentPage : Nat
  totalPages : Nat
  totalItems : Nat
  hasPrev : Bool
  hasNext : Bool
  deriving DecidableEq, Repr

structure Page (α : Type) where
  items : List α
  info : PageInfo

/-- The number of pages of `size` items (a size of zero counting as one) that `total`
items fill, and at least one. -/
def pageCount (total size : Nat) : Nat :=
  let size := max size 1
  max ((total + size - 1) / size) 1

/-- The page `page` (clamped) of `size` items (at least one) of a list. -/
def paginate {α : Type} (items : List α) (page size : Nat) : Page α :=
  let size := max size 1
  let total := items.length
  let pages := pageCount total size
  let current := min (max page 1) pages
  let start := (current - 1) * size
  let stop := min (start + size) total
  { items := (items.drop start).take (stop - start)
    info :=
      { shown := if total > 0 then some (start + 1, stop) else none
        currentPage := current
        totalPages := pages
        totalItems := total
        hasPrev := current > 1
        hasNext := current < pages } }

/-! ## In machine words

`paginate` in the program's 64-bit words, each step that can panic giving `none`. -/

namespace Word

/-- `a + b`, or `none` where the sum does not fit in 64 bits. -/
def add (a b : UInt64) : Option UInt64 :=
  if a.toNat + b.toNat < UInt64.size then some (a + b) else none

/-- `a - b`, or `none` where `b` exceeds `a`. -/
def sub (a b : UInt64) : Option UInt64 :=
  if b ≤ a then some (a - b) else none

/-- `a * b`, or `none` where the product does not fit in 64 bits. -/
def mul (a b : UInt64) : Option UInt64 :=
  if a.toNat * b.toNat < UInt64.size then some (a * b) else none

/-- The quotient rounded up, for a divisor of at least one. -/
def divCeil (a b : UInt64) : UInt64 :=
  if a % b > 0 then a / b + 1 else a / b

/-- `x` clamped to `lo … hi`, or `none` where `hi < lo`. -/
def clamp (x lo hi : UInt64) : Option UInt64 :=
  if lo ≤ hi then some (if x < lo then lo else if hi < x then hi else x) else none

/-- The items at positions `start` up to `stop`, exclusive, or `none` where `stop < start`
or the list ends before `stop`. -/
def slice {α : Type} (items : List α) (start stop : UInt64) : Option (List α) :=
  if start ≤ stop ∧ stop.toNat ≤ items.length then
    some ((items.drop start.toNat).take (stop.toNat - start.toNat))
  else none

end Word

def pageCountWord (total size : UInt64) : UInt64 :=
  max (Word.divCeil total (max size 1)) 1

def paginateWord {α : Type} (items : List α) (page size : UInt64) : Option (Page α) := do
  let size := max size 1
  let total := items.length.toUInt64
  let pages := pageCountWord total size
  let current ← Word.clamp page 1 pages
  let start ← Word.mul (← Word.sub current 1) size
  let stop := min (← Word.add start size) total
  let pageItems ← Word.slice items (min start total) stop
  let shown ← if total > 0 then do
      let first ← Word.add start 1
      pure (some (first.toNat, stop.toNat))
    else pure none
  pure
    { items := pageItems
      info :=
        { shown := shown
          currentPage := current.toNat
          totalPages := pages.toNat
          totalItems := total.toNat
          hasPrev := current > 1
          hasNext := current < pages } }

namespace PageInfo

def summary (i : PageInfo) : String :=
  match i.shown with
  | some (a, b) => "Showing " ++ toString a ++ "-" ++ toString b ++ " of " ++ toString i.totalItems
  | none => "No results"

def indicator (i : PageInfo) : String :=
  "Page " ++ toString i.currentPage ++ " of " ++ toString i.totalPages

end PageInfo

end SwapDesk

import SwapDesk.Ledger.Swap

/-! # Ledger queries

Filters, a sort by one column and a page. Doubles compare by the total order of their bits and
texts after lower-casing; a descending sort reverses the comparison, not the result, so equal
keys keep their ledger order both ways.
-/

namespace SwapDesk

inductive Filter (α : Type) where
  | all
  | only (a : α)
  deriving DecidableEq, Repr

def Filter.admits {α : Type} [DecidableEq α] : Filter α → α → Bool
  | .all, _ => true
  | .only a, b => a = b

inductive Column where
  | id
  | date
  | direction
  | amountIn
  | amountOut
  | tokenIn
  | tokenOut
  | slippageBps
  | fee
  | status
  | signature
  deriving DecidableEq, Repr

inductive Order where
  | asc
  | desc
  deriving DecidableEq, Repr

/-- The total order of doubles by their bit patterns: negative values below positive ones,
`-0.0` just below `0.0`, and NaNs beyond the infinities on the side of their sign. -/
def totalKey (x : Float) : Int :=
  let bits := x.toBits.toNat
  if bits ≥ Nat.pow 2 63 then -1 - (bits - Nat.pow 2 63 : Nat) else bits

namespace Column

def name : Column → String
  | .id => "id"
  | .date => "date"
  | .direction => "type"
  | .amountIn => "amountIn"
  | .amountOut => "amountOut"
  | .tokenIn => "tokenIn"
  | .tokenOut => "tokenOut"
  | .slippageBps => "slippageBps"
  | .fee => "fee"
  | .status => "status"
  | .signature => "signature"

def tag : Column → String
  | .id => "Id"
  | .date => "Date"
  | .direction => "Direction"
  | .amountIn => "AmountIn"
  | .amountOut => "AmountOut"
  | .tokenIn => "TokenIn"
  | .tokenOut => "TokenOut"
  | .slippageBps => "SlippageBps"
  | .fee => "Fee"
  | .status => "Status"
  | .signature => "Signature"

def all : List Column :=
  [.id, .date, .direction, .amountIn, .amountOut, .tokenIn, .tokenOut, .slippageBps, .fee,
    .status, .signature]

/-- Reads a column from a query text: trimmed, lower-cased, its name or an alias
(`timestamp`, `direction`, `amount_in`, `amount_out`, `token_in`, `token_out`,
`slippage_bps`, `slippage`). -/
def parse (s : String) : Except QueryError Column :=
  match lowerCase (trimBlank s) with
  | "id" => .ok .id
  | "date" | "timestamp" => .ok .date
  | "type" | "direction" => .ok .direction
  | "amountin" | "amount_in" => .ok .amountIn
  | "amountout" | "amount_out" => .ok .amountOut
  | "tokenin" | "token_in" => .ok .tokenIn
  | "tokenout" | "token_out" => .ok .tokenOut
  | "slippagebps" | "slippage_bps" | "slippage" => .ok .slippageBps
  | "fee" => .ok .fee
  | "status" => .ok .status
  | "signature" => .ok .signature
  | _ => .error (.unknownColumn s)

def compareText (a b : String) : Ordering := compare (lowerCase a) (lowerCase b)

def compare (c : Column) (a b : Swap) : Ordering :=
  match c with
  | .id => Ord.compare a.id b.id
  | .date => Instant.cmp a.time b.time
  | .direction => compareText a.direction.wireName b.direction.wireName
  | .amountIn => Ord.compare (totalKey a.amountIn) (totalKey b.amountIn)
  | .amountOut => Ord.compare (totalKey a.amountOut) (totalKey b.amountOut)
  | .tokenIn => compareText a.tokenIn.symbol b.tokenIn.symbol
  | .tokenOut => compareText a.tokenOut.symbol b.tokenOut.symbol
  | .slippageBps => Ord.compare a.slippageBps b.slippageBps
  | .fee => Ord.compare (totalKey a.fee) (totalKey b.fee)
  | .status => compareText a.status.name b.status.name
  | .signature => compareText a.signature b.signature

end Column

namespace Order

def name : Order → String
  | .asc => "asc"
  | .desc => "desc"

def flip : Order → Order
  | .asc => .desc
  | .desc => .asc

def apply : Order → Ordering → Ordering
  | .asc, o => o
  | .desc, o => o.swap

/-- Reads an order from a query text: trimmed, lower-cased, `asc` or `desc`. -/
def parse (s : String) : Except QueryError Order :=
  match lowerCase (trimBlank s) with
  | "asc" => .ok .asc
  | "desc" => .ok .desc
  | _ => .error (.unknownOrder s)

end Order

structure Query where
  direction : Filter Direction := .all
  status : Filter Status := .all
  dateFrom : Option Date := none
  dateTo : Option Date := none
  column : Column := .date
  order : Order := .desc
  page : Nat := 1
  pageSize : Nat := 25
  deriving DecidableEq, Repr

namespace Query

def default : Query := {}

def withDirection (q : Query) (f : Filter Direction) : Query := { q with direction := f }

def withStatus (q : Query) (f : Filter Status) : Query := { q with status := f }

def withDates (q : Query) (dateFrom dateTo : Option Date) : Query :=
  { q with dateFrom := dateFrom, dateTo := dateTo }

def withSort (q : Query) (c : Column) (o : Order) : Query := { q with column := c, order := o }

def withPage (q : Query) (page size : Nat) : Query := { q with page := page, pageSize := size }

/-- A click on a column header: the active column flips its order, another column becomes
active in descending order; either way back to page 1. -/
def toggle (q : Query) (c : Column) : Query :=
  if q.column = c then { q with order := q.order.flip, page := 1 }
  else { q with column := c, order := .desc, page := 1 }

def admits (q : Query) (s : Swap) : Bool :=
  q.direction.admits s.direction && q.status.admits s.status &&
    (match q.dateFrom with
     | some d => decide (Instant.startOfDay d ≤ s.time)
     | none => true) &&
    (match q.dateTo with
     | some d => decide (s.time ≤ Instant.endOfDay d)
     | none => true)

/-- Whether `a` may stand before `b` in the query's order. -/
def before (q : Query) (a b : Swap) : Bool := q.order.apply (q.column.compare a b) != .gt

/-- The swaps that pass the filters, stably sorted by the query's column and order. -/
def run (q : Query) (swaps : List Swap) : List Swap :=
  (swaps.filter q.admits).mergeSort q.before

end Query

end SwapDesk

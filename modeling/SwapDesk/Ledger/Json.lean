import SwapDesk.Ledger.QueryForm
import SwapDesk.Ledger.Page
import SwapDesk.Json.Decode

/-! # Ledger values as JSON

Field names in camel case; a swap is written in its wire form and read back through it, the
tokens checked against the direction.
-/

namespace SwapDesk

def Date.toJson (d : Date) : Json := .str d.text

def Date.ofJson (j : Json) : Except DecodeError Date := do
  let s ← j.toStr
  match Date.ofText s with
  | .ok d => return d
  | .error e => throw (.custom e.message)

def Instant.ofJson (j : Json) : Except DecodeError Instant := do
  let s ← j.toStr
  match Instant.parse? s with
  | some t => return t
  | none => throw (.custom "invalid instant")

namespace Token

def toJson (t : Token) : Json := .str t.symbol
def ofJson : Json → Except DecodeError Token := Json.toVariant [("SOL", .sol), ("USDC", .usdc)]

end Token

namespace Direction

def toJson (d : Direction) : Json := .str d.wireName
def ofJson : Json → Except DecodeError Direction :=
  Json.toVariant [("SOL_TO_USDC", .solToUsdc), ("USDC_TO_SOL", .usdcToSol)]

end Direction

namespace Status

def toJson (s : Status) : Json := .str s.name
def ofJson : Json → Except DecodeError Status :=
  Json.toVariant [("pending", .pending), ("confirmed", .confirmed), ("failed", .failed)]

end Status

def SwapWire.toJson (w : SwapWire) : Json :=
  .obj [("id", .nat w.id.toNat), ("date", .str (w.time.text .auto true)),
    ("type", w.direction.toJson), ("amountIn", .float w.amountIn), ("tokenIn", w.tokenIn.toJson),
    ("amountOut", .float w.amountOut), ("tokenOut", w.tokenOut.toJson),
    ("slippageBps", .nat w.slippageBps.toNat), ("fee", .float w.fee),
    ("status", w.status.toJson), ("signature", .str w.signature)]

/-- Reads the wire form of a swap: every field required, types checked, other fields
ignored. -/
def SwapWire.ofJson (j : Json) : Except DecodeError SwapWire := do
  let j ← Json.toStruct "TransactionWire" ["id", "date", "type", "amountIn", "tokenIn",
    "amountOut", "tokenOut", "slippageBps", "fee", "status", "signature"] j
  return {
    id := ← j.field "id" Json.toU32
    time := ← j.field "date" Instant.ofJson
    direction := ← j.field "type" Direction.ofJson
    amountIn := ← j.field "amountIn" Json.toF64
    tokenIn := ← j.field "tokenIn" Token.ofJson
    amountOut := ← j.field "amountOut" Json.toF64
    tokenOut := ← j.field "tokenOut" Token.ofJson
    slippageBps := ← j.field "slippageBps" Json.toU32
    fee := ← j.field "fee" Json.toF64
    status := ← j.field "status" Status.ofJson
    signature := ← j.field "signature" Json.toStr }

def Swap.toJson (s : Swap) : Json := s.toWire.toJson

/-- Reads a swap: its wire form, whose tokens must agree with its direction. -/
def Swap.ofJson (j : Json) : Except DecodeError Swap := do
  let w ← SwapWire.ofJson j
  match w.toSwap with
  | .ok s => return s
  | .error m => throw (.rejected m)

namespace Filter

/-- A filter as JSON: `"All"` or `{"Only": value}`. -/
def toJson {α : Type} (enc : α → Json) : Filter α → Json
  | .all => .str "All"
  | .only a => .obj [("Only", enc a)]

/-- Reads a filter written as `toJson` writes it. -/
def ofJson {α : Type} (dec : Json → Except DecodeError α) : Json → Except DecodeError (Filter α)
  | .str "All" => .ok .all
  | .obj [("All", .null)] => .ok .all
  | .obj [("Only", v)] => .only <$> dec v
  | .str s => .error (.unknownVariant s ["All", "Only"])
  | j => .error (.invalidType (Found.ofJson j) "enum Filter")

end Filter

def Column.ofJson : Json → Except DecodeError Column :=
  Json.toVariant (Column.all.map fun c => (c.tag, c))

def Order.ofJson : Json → Except DecodeError Order :=
  Json.toVariant [("asc", .asc), ("desc", .desc)]

def optionJson {α : Type} (enc : α → Json) : Option α → Json
  | some a => enc a
  | none => .null

def Query.toJson (q : Query) : Json :=
  .obj [("filterDirection", q.direction.toJson Direction.toJson),
    ("filterStatus", q.status.toJson Status.toJson),
    ("dateFrom", optionJson Date.toJson q.dateFrom), ("dateTo", optionJson Date.toJson q.dateTo),
    ("sortField", .str q.column.tag), ("sortDirection", .str q.order.name),
    ("page", .nat q.page), ("pageSize", .nat q.pageSize)]

def PageInfo.toJson (i : PageInfo) : Json :=
  .obj [("shown", optionJson (fun (a, b) => .obj [("start", .nat a), ("end", .nat b)]) i.shown),
    ("currentPage", .nat i.currentPage), ("totalPages", .nat i.totalPages),
    ("totalItems", .nat i.totalItems), ("hasPrev", .bool i.hasPrev), ("hasNext", .bool i.hasNext)]

/-- Reads a submitted query form: every field optional, texts and sizes typed. -/
def QueryForm.ofJson (j : Json) : Except DecodeError QueryForm := do
  let j ← Json.toStruct "QueryParams" ["filterType", "filterStatus", "dateFrom", "dateTo",
    "sortField", "sortDir", "page", "pageSize"] j
  return {
    filterType := ← j.optField "filterType" Json.toStr
    filterStatus := ← j.optField "filterStatus" Json.toStr
    dateFrom := ← j.optField "dateFrom" Json.toStr
    dateTo := ← j.optField "dateTo" Json.toStr
    sortField := ← j.optField "sortField" Json.toStr
    sortDir := ← j.optField "sortDir" Json.toStr
    page := ← j.optField "page" Json.toSize
    pageSize := ← j.optField "pageSize" Json.toSize }

end SwapDesk

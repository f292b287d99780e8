import SwapDesk.Ledger.Query

/-! # Queries as submitted

Every value a text but the page and its size, read in a fixed order with the first failure
reported; a text blank after trimming counts as not given.
-/

namespace SwapDesk

structure QueryForm where
  filterType : Option String := none
  filterStatus : Option String := none
  dateFrom : Option String := none
  dateTo : Option String := none
  sortField : Option String := none
  sortDir : Option String := none
  page : Option Nat := none
  pageSize : Option Nat := none
  deriving DecidableEq, Repr

/-- Reads a filter: `all` in any ASCII case after trimming, otherwise one value. -/
def Filter.parse {α : Type} (parseOne : String → Except QueryError α) (s : String) :
    Except QueryError (Filter α) :=
  if asciiCaseEq (trimBlank s) "all" then .ok .all else .only <$> parseOne s

/-- Reads a given, non-blank text; a missing or blank one gives the default. -/
def parseOr {α : Type} (parse : String → Except QueryError α) (default : α) :
    Option String → Except QueryError α
  | some s => if (trimBlank s).isEmpty then .ok default else parse s
  | none => .ok default

def parseDateBound : Option String → Except QueryError (Option Date)
  | some s =>
    if (trimBlank s).isEmpty then .ok none
    else match Date.parse (trimBlank s) with
      | .ok d => .ok (some d)
      | .error e => .error (.malformedDate s e)
  | none => .ok none

/-- The query of a submitted form, or the first reason to refuse it. -/
def QueryForm.toQuery (f : QueryForm) : Except QueryError Query := do
  let page := f.page.getD Query.default.page
  if page = 0 then throw .pageZero
  let pageSize := f.pageSize.getD Query.default.pageSize
  if pageSize = 0 then throw .pageSizeZero
  let direction ← parseOr (Filter.parse Direction.parse) .all f.filterType
  let status ← parseOr (Filter.parse Status.parse) .all f.filterStatus
  let dateFrom ← parseDateBound f.dateFrom
  let dateTo ← parseDateBound f.dateTo
  let column ← parseOr Column.parse Query.default.column f.sortField
  let order ← parseOr Order.parse Query.default.order f.sortDir
  return { direction, status, dateFrom, dateTo, column, order, page, pageSize }

end SwapDesk

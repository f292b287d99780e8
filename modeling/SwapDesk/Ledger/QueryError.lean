import SwapDesk.Calendar.Date

/-! # Rejected queries

Each case carries the text the user gave, untrimmed except for a PnL range.
-/

namespace SwapDesk

inductive QueryError where
  | unknownDirection (text : String)
  | unknownStatus (text : String)
  | unknownColumn (text : String)
  | unknownOrder (text : String)
  | unknownRange (text : String)
  | malformedDate (text : String) (why : DateError)
  | pageZero
  | pageSizeZero
  deriving DecidableEq, Repr

namespace QueryError

def detail : QueryError → String
  | .unknownDirection s => "unknown direction '" ++ s ++ "'"
  | .unknownStatus s => "unknown status '" ++ s ++ "'"
  | .unknownColumn s => "unknown sort field '" ++ s ++ "'"
  | .unknownOrder s => "unknown sort direction '" ++ s ++ "'"
  | .unknownRange s => "unknown PnL range '" ++ s ++ "'"
  | .malformedDate s why => "malformed date '" ++ s ++ "': " ++ why.message
  | .pageZero => "page must be at least 1"
  | .pageSizeZero => "page size must be at least 1"

def message (e : QueryError) : String := "Invalid query: " ++ e.detail

end QueryError

end SwapDesk

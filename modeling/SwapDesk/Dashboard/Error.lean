import SwapDesk.Ledger.QueryError
import SwapDesk.Simulation.Window
import SwapDesk.Decimal.Layout

/-! # Why the dashboard refuses a request

One constructor per cause; `DeskError.message` puts a category (`Query error: `) in front of the
cause's own text.
-/

namespace SwapDesk

/-- A setting that the dashboard refuses although it has the right type. -/
inductive SettingProblem where
  | pageSizeZero
  /-- A reference price that is not a finite positive number. -/
  | referencePrice (price : Float)
  /-- A price spread outside `[0, 2·price)`, which would let a swap price reach zero. -/
  | priceSpread (price spread : Float)
  | pnlRange (text : String) (cause : QueryError)

def SettingProblem.message : SettingProblem → String
  | .pageSizeZero => "ledger.page_size must be at least 1"
  | .referencePrice p => "generator.reference_price must be positive, got " ++ p.toPlain
  | .priceSpread p s =>
    "generator.price_spread must be in [0, " ++ (2.0 * p).toPlain ++ "), got " ++ s.toPlain
  | .pnlRange t e => "analytics.pnl_range '" ++ t ++ "': " ++ e.message

/-- A file-system refusal met while writing an export. -/
inductive FileFault where
  | alreadyExists
  | notADirectory
  | isADirectory
  /-- A path names nothing, or goes through a directory that does not exist. -/
  | notFound
  /-- A name in a path longer than 255 bytes, or a path of 4096 bytes or more. -/
  | nameTooLong
  /-- A path holding a NUL byte, which no system call can take. -/
  | nulByte
  | other (message : String)
  deriving DecidableEq

def FileFault.message : FileFault → String
  | .alreadyExists => "File exists (os error 17)"
  | .notADirectory => "Not a directory (os error 20)"
  | .isADirectory => "Is a directory (os error 21)"
  | .notFound => "No such file or directory (os error 2)"
  | .nameTooLong => "File name too long (os error 36)"
  | .nulByte => "file name contained an unexpected NUL byte"
  | .other m => m

inductive DeskError where
  | settings (p : SettingProblem)
  | query (e : QueryError)
  | simulation (e : SimulationError)
  | invalidAmount (amount : Float)
  | output (f : FileFault)
  /-- A date computation left the calendar; the program stops instead of answering. -/
  | calendarOverflow

def DeskError.message : DeskError → String
  | .settings p => "Configuration error: " ++ p.message
  | .query e => "Query error: " ++ e.message
  | .simulation e => "Generator error: " ++ e.message
  | .invalidAmount x => "Invalid amount: amount must be a positive number, got " ++ x.toPlain
  | .output f => "Output error: " ++ f.message
  | .calendarOverflow => "date arithmetic left the calendar"

def positiveAmount (x : Float) : Except DeskError Float :=
  if !x.isFinite || x <= 0.0 then .error (.invalidAmount x) else .ok x

/-- Swap prices are drawn within `price ± spread/2`; both must be finite, the price above
zero and the spread in `[0, 2·price)`, so that every drawn price stays positive. -/
def checkPriceBand (price spread : Float) : Except SettingProblem Unit :=
  if !price.isFinite || price <= 0.0 then .error (.referencePrice price)
  else if !spread.isFinite || spread < 0.0 || spread >= 2.0 * price then
    .error (.priceSpread price spread)
  else .ok ()

end SwapDesk

/-! # The command line's grammar

The options and commands as data, from which help pages, usage lines and errors are rendered and
against which the arguments are scanned. Options are long (`--seed=7`) and some also short
(`-r7`); the global ones may stand before or after the command.
-/

namespace SwapDesk.Cli

inductive ValueKind where
  | text
  /-- a file-system path, which cannot be empty -/
  | path
  | word64
  | word32
  /-- a size: an unsigned 64-bit whole number -/
  | size
  | number
  deriving DecidableEq, Repr

structure Opt where
  long : String
  short : Option Char := none
  /-- the placeholder of its value; a flag has none -/
  placeholder : Option String := none
  kind : ValueKind := .text
  help : String := ""
  default : Option String := none
  /-- its place among the options, ties broken by name -/
  order : Nat := 999
  deriving Repr

namespace Opt

def takesValue (o : Opt) : Bool := o.placeholder.isSome

/-- The option as usage lines and errors name it: `--seed <SEED>` or `--json`. -/
def display (o : Opt) : String :=
  "--" ++ o.long ++ (match o.placeholder with | some p => " <" ++ p ++ ">" | none => "")

/-- The key options are listed by within one place: the short letter in lower case
(then `0` for a lower-case letter, `1` otherwise), or else the long name. -/
def sortKey (o : Opt) : String :=
  match o.short with
  | some c => String.ofList [c.toLower, if c.isLower then '0' else '1']
  | none => o.long

end Opt

inductive Verb where
  | history
  | transactions
  | exportCsv
  | volume
  | portfolio
  deriving DecidableEq, Repr

structure Command where
  name : String
  verb : Verb
  about : String
  options : List Opt
  /-- the options a usage line may show together as one alternative -/
  grouped : List Opt

def programName : String := "solswap"

def programVersion : String := "0.2.0"

def programAbout : String := "SOL/USDC vault dashboard: PnL history, swap ledger and portfolio"

def globalOptions : List Opt :=
  [{ long := "config", placeholder := some "CONFIG", kind := .path,
     help := "Path to a TOML config file", order := 0 },
   { long := "seed", placeholder := some "SEED", kind := .word64,
     help := "PRNG seed for the PnL history (overrides config)", order := 1 },
   { long := "transaction-seed", placeholder := some "TRANSACTION_SEED", kind := .word64,
     help := "PRNG seed for the ledger (overrides config)", order := 2 },
   { long := "log-level", placeholder := some "LOG_LEVEL",
     help := "Log filter, e.g. \"debug\" or \"solswap=trace\"", order := 3 },
   { long := "json", help := "Print JSON instead of text", order := 4 }]

def helpOption : Opt := { long := "help", short := some 'h', help := "Print help" }

def versionOption : Opt := { long := "version", short := some 'V', help := "Print version" }

def ledgerOptions : List Opt :=
  [{ long := "type", placeholder := some "FILTER_TYPE", help := "all, sol_to_usdc or usdc_to_sol",
     order := 0 },
   { long := "status", placeholder := some "STATUS", help := "all, confirmed, pending or failed",
     order := 1 },
   { long := "from", placeholder := some "FROM", help := "Inclusive start date, YYYY-MM-DD",
     order := 2 },
   { long := "to", placeholder := some "TO", help := "Inclusive end date, YYYY-MM-DD",
     order := 3 },
   { long := "sort", placeholder := some "SORT", help := "Sort field, e.g. date, amountIn, fee",
     order := 4 },
   { long := "dir", placeholder := some "DIR", help := "asc or desc", order := 5 }]

def rangeOption : Opt :=
  { long := "range", short := some 'r', placeholder := some "RANGE",
    help := "\"all\" or a day count such as 30 or 7d", order := 0 }

def daysOption : Opt :=
  { long := "days", short := some 'd', placeholder := some "DAYS", kind := .word32,
    help := "Trailing window in days (overrides config)", order := 0 }

def solPriceOption : Opt :=
  { long := "sol-price", placeholder := some "SOL_PRICE", kind := .number,
    help := "Value the SOL vault at this USD price instead of the configured one",
    order := 0 }

/-- The commands, in the order help lists them. -/
def commands : List Command :=
  [⟨"history", .history, "Daily PnL history", [rangeOption], [rangeOption]⟩,
   ⟨"transactions", .transactions, "Filtered, sorted and paginated swap ledger",
    ledgerOptions ++
    [{ long := "page", short := some 'p', placeholder := some "PAGE", kind := .size,
       help := "1-based page number", order := 6 },
     { long := "page-size", placeholder := some "PAGE_SIZE", kind := .size, order := 7 }],
    ledgerOptions⟩,
   ⟨"export", .exportCsv, "Write the filtered ledger to a CSV file",
    ledgerOptions ++
    [{ long := "out", short := some 'o', placeholder := some "OUT", kind := .path,
       help := "Directory the CSV file is written to", default := some ".", order := 6 }],
    ledgerOptions⟩,
   ⟨"volume", .volume, "Weekly swap volume per direction", [daysOption], [daysOption]⟩,
   ⟨"portfolio", .portfolio, "Vault balances, fee pool and all-time PnL", [solPriceOption],
    [solPriceOption]⟩]

def helpCommandAbout : String := "Print this message or the help of the given subcommand(s)"

def commandNames : List String := commands.map (·.name) ++ ["help"]

/-- The options a command accepts: its own, the global ones, and help. -/
def Command.accepted (c : Command) : List Opt := c.options ++ globalOptions ++ [helpOption]

def topOptions : List Opt := globalOptions ++ [helpOption, versionOption]

end SwapDesk.Cli

import SwapDesk.Text.Digits
import SwapDesk.Text.Blank
import SwapDesk.Text.Property
import SwapDesk.Text.Printable
import SwapDesk.Text.Bytes
import SwapDesk.Text.Lower
import SwapDesk.Decimal.Basic
import SwapDesk.Decimal.Shortest
import SwapDesk.Decimal.Fixed
import SwapDesk.Decimal.Read
import SwapDesk.Decimal.Layout
import SwapDesk.Json.Basic
import SwapDesk.Json.Write
import SwapDesk.Json.Read
import SwapDesk.Random.MinStd
import SwapDesk.Random.Uniform
import SwapDesk.Calendar.Date
import SwapDesk.Calendar.Instant
import SwapDesk.Json.Decode
import SwapDesk.Ledger.QueryError
import SwapDesk.Ledger.Swap
import SwapDesk.Ledger.Query
import SwapDesk.Ledger.QueryForm
import SwapDesk.Ledger.Page
import SwapDesk.Ledger.Csv
import SwapDesk.Ledger.Book
import SwapDesk.Ledger.Json
import SwapDesk.Decimal.Round
import SwapDesk.Text.Base58
import SwapDesk.Simulation.Window
import SwapDesk.Simulation.History
import SwapDesk.Simulation.Trades
import SwapDesk.Simulation.Json
import SwapDesk.Analytics.Volume
import SwapDesk.Analytics.PnlRange
import SwapDesk.Vault.Valuation
import SwapDesk.Text.Amount
import SwapDesk.Config.Basic
import SwapDesk.Config.Decode
import SwapDesk.Dashboard.Error
import SwapDesk.Dashboard.Basic
import SwapDesk.Text.Pad
import SwapDesk.Decimal.Literal
import SwapDesk.Toml.Tree
import SwapDesk.Toml.Read
import SwapDesk.Toml.Report
import SwapDesk.Config.File
import SwapDesk.Cli.Grammar
import SwapDesk.Cli.Suggest
import SwapDesk.Cli.Help
import SwapDesk.Cli.Refusal
import SwapDesk.Cli.Request
import SwapDesk.Cli.LogFilter
import SwapDesk.Cli.Tables
import SwapDesk.Cli.Disk
import SwapDesk.Cli.Run
import SwapDesk.Main
import SwapDesk.Regex.Syntax
import SwapDesk.Regex.Error
import SwapDesk.Regex.Parse
import SwapDesk.Regex.Check
import SwapDesk.Proofs.StableSort
import SwapDesk.Proofs.Query
import SwapDesk.Proofs.Page
import SwapDesk.Proofs.Csv
import SwapDesk.Proofs.Binary64
import SwapDesk.Proofs.MinStd
import SwapDesk.Proofs.InstantText
import SwapDesk.Proofs.Wire
import SwapDesk.Proofs.History
import SwapDesk.Proofs.Volume
import SwapDesk.Proofs.Scaling
import SwapDesk.Proofs.Trades
import SwapDesk.Proofs.Civil
import SwapDesk.Proofs.QueryText
import SwapDesk.Proofs.Reversal
import SwapDesk.Proofs.DayBounds
import SwapDesk.Proofs.Draws
import SwapDesk.Proofs.Period
import SwapDesk.Proofs.Choice
import SwapDesk.Proofs.Rounding
import SwapDesk.Proofs.Arithmetic
import SwapDesk.Proofs.Amounts
import SwapDesk.Proofs.SortToggle
import SwapDesk.Proofs.RangeText
import SwapDesk.Proofs.AmountText
import SwapDesk.Proofs.VolumeWindow
import SwapDesk.Proofs.PageWord

import SwapDesk.Config.Basic
import SwapDesk.Ledger.Json

/-! # Reading settings from a document

Every section and key is optional and unknown ones are ignored; members are read in written
order, so the first bad one is reported, with its path (`generator.seed`). A section may be an
array filling its fields in order; items beyond them are handled as `Surplus` says.
-/

namespace SwapDesk

/-- A setting that does not decode, and where it is. -/
structure SettingError where
  path : List PathStep
  error : DecodeError

/-- What becomes of the items of an array, written for a section, beyond its fields. -/
inductive Surplus where
  | ignored
  | refused
  deriving DecidableEq, Repr

/-- The members a section is written with, each with the step that reaches it: an object's
members under their keys, or an array's items under the section's fields in order. -/
def sectionMembers (structName : String) (fields : List String) (surplus : Surplus) :
    Json → Except DecodeError (List (PathStep × String × Json))
  | .obj ms => .ok (ms.map fun (k, v) => (.key k, k, v))
  | .arr items =>
    if surplus = .refused ∧ items.length > fields.length then
      .error (.invalidLength items.length "fewer elements in array")
    else .ok ((fields.zip items).zipIdx.map fun ((k, v), i) => (.item i, k, v))
  | j => .error (.invalidType (Found.ofJson j) ("struct " ++ structName))

/-- How one member changes a section's settings, or `none` for a key the section
ignores. -/
abbrev SectionReader (α : Type) := α → String → Json → Option (Except DecodeError α)

/-- Reads the members of a section in order: each known field once, the others ignored. -/
def readMembers {α : Type} (path : List PathStep) (read : SectionReader α) (init : α)
    (members : List (PathStep × String × Json)) : Except SettingError α :=
  let step (acc : α × List String) (m : PathStep × String × Json) :
      Except SettingError (α × List String) :=
    let (at_, k, v) := m
    match read acc.1 k v with
    | none => .ok acc
    | some r =>
      if acc.2.contains k then .error ⟨path, .custom ("duplicate field `" ++ k ++ "`")⟩
      else match r with
        | .ok a => .ok (a, k :: acc.2)
        | .error e => .error ⟨path ++ [at_], e⟩
  (members.foldlM step (init, [])).map (·.1)

def dateSetting (j : Json) : Except DecodeError Date :=
  match j with
  | .str s =>
    match Date.ofText s with
    | .ok d => .ok d
    | .error e => .error (.custom e.message)
  | j => .error (.invalidType (Found.ofJson j) "a formatted date string")

def setWith {α β : Type} (dec : Json → Except DecodeError β) (v : Json) (f : β → α) :
    Option (Except DecodeError α) :=
  some (f <$> dec v)

def GeneratorSettings.read : SectionReader GeneratorSettings := fun g k v =>
  match k with
  | "seed" => setWith Json.toU64 v fun x => { g with seed := x }
  | "transaction_seed" => setWith Json.toU64 v fun x => { g with transactionSeed := x }
  | "transaction_count" => setWith Json.toSize v fun x => { g with transactionCount := x }
  | "history_start" => setWith dateSetting v fun x => { g with historyStart := x }
  | "phase2_start" => setWith dateSetting v fun x => { g with phase2Start := x }
  | "phase3_start" => setWith dateSetting v fun x => { g with phase3Start := x }
  | "history_end" => setWith dateSetting v fun x => { g with historyEnd := x }
  | "reference_price" => setWith Json.toF64 v fun x => { g with referencePrice := x }
  | "price_spread" => setWith Json.toF64 v fun x => { g with priceSpread := x }
  | _ => none

def LedgerSettings.read : SectionReader LedgerSettings := fun l k v =>
  match k with
  | "page_size" => setWith Json.toSize v fun x => { l with pageSize := x }
  | "export_prefix" => setWith Json.toStr v fun x => { l with exportStem := x }
  | _ => none

def AnalyticsSettings.read : SectionReader AnalyticsSettings := fun a k v =>
  match k with
  | "volume_window_days" => setWith Json.toU32 v fun x => { a with volumeWindowDays := x }
  | "as_of" => setWith dateSetting v fun x => { a with asOf := x }
  | "pnl_range" => setWith Json.toStr v fun x => { a with pnlRange := x }
  | _ => none

def HoldingSettings.read : SectionReader HoldingSettings := fun h k v =>
  match k with
  | "sol_balance" => setWith Json.toF64 v fun x => { h with solBalance := x }
  | "usdc_balance" => setWith Json.toF64 v fun x => { h with usdcBalance := x }
  | "sol_price" => setWith Json.toF64 v fun x => { h with solPrice := x }
  | "fee_pool_balance" => setWith Json.toF64 v fun x => { h with feePoolBalance := x }
  | "fee_pool_min" => setWith Json.toF64 v fun x => { h with feePoolMin := x }
  | "fee_pool_target" => setWith Json.toF64 v fun x => { h with feePoolTarget := x }
  | "sol_base" => setWith Json.toF64 v fun x => { h with solBase := x }
  | "usdc_base" => setWith Json.toF64 v fun x => { h with usdcBase := x }
  | _ => none

/-- A section read from its value at `at_`, named `structName` when it is not one. -/
def readSection {α : Type} (at_ : PathStep) (structName : String) (fields : List String)
    (surplus : Surplus) (read : SectionReader α) (init : α) (v : Json) :
    Except SettingError α :=
  match sectionMembers structName fields surplus v with
  | .ok ms => readMembers [at_] read init ms
  | .error e => .error ⟨[at_], e⟩

def generatorFields : List String :=
  ["seed", "transaction_seed", "transaction_count", "history_start", "phase2_start",
    "phase3_start", "history_end", "reference_price", "price_spread"]

def ledgerFields : List String := ["page_size", "export_prefix"]

def analyticsFields : List String := ["volume_window_days", "as_of", "pnl_range"]

def portfolioFields : List String :=
  ["sol_balance", "usdc_balance", "sol_price", "fee_pool_balance", "fee_pool_min",
    "fee_pool_target", "sol_base", "usdc_base"]

def sectionNames : List String := ["generator", "ledger", "analytics", "portfolio"]

def Config.ofJson (surplus : Surplus) (j : Json) : Except SettingError Config := do
  let sections ← match sectionMembers "Config" sectionNames surplus j with
    | .ok ms => pure ms
    | .error e => throw ⟨[], e⟩
  let step (acc : Config × List String) (m : PathStep × String × Json) :
      Except SettingError (Config × List String) := do
    let (c, seen) := acc
    let (at_, k, v) := m
    if sectionNames.contains k && seen.contains k then
      throw ⟨[], .custom ("duplicate field `" ++ k ++ "`")⟩
    let c ← match k with
      | "generator" =>
        let g ← readSection at_ "GeneratorCfg" generatorFields surplus GeneratorSettings.read {} v
        pure { c with generator := g }
      | "ledger" =>
        let l ← readSection at_ "LedgerCfg" ledgerFields surplus LedgerSettings.read {} v
        pure { c with ledger := l }
      | "analytics" =>
        let a ← readSection at_ "AnalyticsCfg" analyticsFields surplus AnalyticsSettings.read {} v
        pure { c with analytics := a }
      | "portfolio" =>
        let h ← readSection at_ "PortfolioCfg" portfolioFields surplus HoldingSettings.read {} v
        pure { c with holdings := h }
      | _ => pure c
    return (c, k :: seen)
  return (← sections.foldlM step ({}, [])).1

end SwapDesk

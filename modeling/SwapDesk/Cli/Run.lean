import SwapDesk.Cli.Request
import SwapDesk.Cli.LogFilter
import SwapDesk.Cli.Tables
import SwapDesk.Cli.Disk
import SwapDesk.Config.File
import SwapDesk.Text.Pad

/-! # A run of the program

What a command line prints and its exit status: 0 for output, 2 for a refused command line, 1
for a request that fails (`Error: …` with its causes), 101 when the program stops. The log
filter is checked, the settings read, the seeds replaced, the dashboard built, and the command run.
-/

namespace SwapDesk.Cli

structure Outcome where
  exit : Nat
  stdout : String
  stderr : String

/-- An error report with the chain of causes under it, outermost first: a lone cause is
indented by four blanks; several are numbered from zero, right-aligned in five columns,
and their further lines are indented by seven blanks. -/
def reportChain (context : String) (causes : List String) : String :=
  let shown := match causes with
    | [cause] => ["    " ++ "\n    ".intercalate (cause.splitOn "\n")]
    | _ => causes.zipIdx.map fun (cause, n) =>
        padLeft (toString n) 5 ++ ": " ++ "\n       ".intercalate (cause.splitOn "\n")
  "Error: " ++ context ++ "\n\nCaused by:\n" ++ "\n".intercalate shown ++ "\n"

def causedBy (context cause : String) : String := reportChain context [cause]

def failure (report : String) : Outcome := ⟨1, "", report⟩

def success (out : String) : Outcome := ⟨0, out, ""⟩

def halted (reason : String) : Outcome := ⟨101, "", "stopped: " ++ reason ++ "\n"⟩

/-- The outcome of a refused request: stopped for a date outside the calendar, reported
otherwise. -/
def refusal (e : DeskError) : Outcome :=
  match e with
  | .calendarOverflow => halted DeskError.calendarOverflow.message
  | e => failure ("Error: " ++ e.message ++ "\n")

/-- The settings for an invocation: from the file it names or the defaults, with its
seeds in place of the settings' ones. -/
def settingsFor {m : Type → Type} [Monad m] (disk : Disk m) (i : Invocation) :
    m (Except Outcome Config) := do
  let c ← match i.config with
    | none => pure (Except.ok ({} : Config))
    | some path => do
      match ← disk.readText path with
      | .error f => pure (.error (failure (causedBy ("read config file " ++ path) f.message)))
      | .ok text =>
        match Config.ofToml text with
        | .ok c => pure (.ok c)
        | .error m => pure (.error (failure (causedBy ("parse config file " ++ path) m)))
  return c.map fun c =>
    let g := c.generator
    { c with generator := { g with
      seed := i.seed.getD g.seed, transactionSeed := i.transactionSeed.getD g.transactionSeed } }

def exportTo {m : Type → Type} [Monad m] (disk : Disk m) (d : Dashboard) (q : Query)
    (out : String) (today : Date) : m Outcome := do
  let csv := d.exportCsv q
  match ← disk.makeDirs out with
  | .error f => return refusal (.output f)
  | .ok () =>
    let path := joinPath out (d.exportName today)
    match ← disk.writeText path csv with
    | .error f => return refusal (.output f)
    | .ok () => return success (path ++ "\n")

def perform {m : Type → Type} [Monad m] (disk : Disk m) (d : Dashboard) (json : Bool)
    (today : Date) : Action → m Outcome
  | .history range =>
    pure <| match d.range range with
      | .ok r => success (historyOutput (d.pnl r) json)
      | .error e => refusal e
  | .transactions form =>
    pure <| match d.pageQuery form with
      | .ok q => success (ledgerOutput (d.page q) json)
      | .error e => refusal e
  | .exportCsv form out =>
    match Dashboard.query form with
    | .ok q => exportTo disk d q out today
    | .error e => pure (refusal e)
  | .volume days =>
    pure <| match d.volume days with
      | .ok weeks => success (volumeOutput weeks json)
      | .error e => refusal e
  | .portfolio solPrice =>
    pure <| match d.snapshot solPrice with
      | .ok s => success (portfolioOutput s json)
      | .error e => refusal e

/-- What the log filter decides: a filter given on the command line must be well formed;
otherwise the one from the environment is used if it is well formed and ignored if not,
though a directive of either cut inside a character stops the program. -/
def filterOutcome? (given env : Option String) : Option Outcome :=
  match given, env with
  | some f, _ =>
    (filterFault? f).map fun
      | .splitCharacter => halted "a log directive cut inside a character"
      | fault => failure (reportChain ("invalid log filter '" ++ f ++ "'") fault.causes)
  | none, some f =>
    if filterFault? f = some .splitCharacter then
      some (halted "a log directive cut inside a character")
    else none
  | none, none => none

def invoke {m : Type → Type} [Monad m] (disk : Disk m) (env : Option String)
    (i : Invocation) (today : Date) : m Outcome := do
  if let some o := filterOutcome? i.logFilter env then return o
  match ← settingsFor disk i with
  | .error o => return o
  | .ok c =>
    match Dashboard.ofConfig c with
    | .error .calendarOverflow => return halted DeskError.calendarOverflow.message
    | .error e => return failure (causedBy "build dashboard" e.message)
    | .ok d => perform disk d i.json today i.action

/-- Runs the program on a command line, `env` being the log filter the environment sets
and `today` the date the export is named by. -/
def run {m : Type → Type} [Monad m] (disk : Disk m) (env : Option String) (args : List String)
    (today : Date) : m Outcome :=
  match Request.ofArgs args with
  | .showHelp page => pure (success page)
  | .showVersion => pure (success versionText)
  | .refuse e => pure ⟨2, "", e.message⟩
  | .run i => invoke disk env i today

end SwapDesk.Cli

import SwapDesk.Cli.Refusal
import SwapDesk.Cli.Suggest
import SwapDesk.Decimal.Literal
import SwapDesk.Ledger.QueryForm

/-! # What a command line asks for

The words are read scope by scope, the program's options and then the command's. A value is read
and its option counted only when the next option takes effect or the scope ends, so a bad value
is reported there; a value left waiting when a command is named is read after the command's own
words. After `--` no word is an option or a command.
-/

namespace SwapDesk.Cli

inductive Given where
  | text (s : String)
  | whole (n : Nat)
  | number (x : Float)
  | flag

def Opt.read (o : Opt) (v : String) : Except UsageError Given :=
  let refuse (reason : String) : Except UsageError Given := .error (.invalidValue v o reason)
  match o.kind with
  | .text => .ok (.text v)
  | .path => if v.isEmpty then .error (.missingValue o) else .ok (.text v)
  | .word64 | .size =>
    match readWhole v 0 (Nat.pow 2 64 - 1) with
    | .ok n => .ok (.whole n.toNat)
    | .error e => refuse e.message
  | .word32 =>
    match readWhole v (-Int.pow 2 63) (Nat.pow 2 63 - 1) with
    | .ok n =>
      if 0 ≤ n ∧ n ≤ 4294967295 then .ok (.whole n.toNat)
      else refuse (toString n ++ " is not in 0..=4294967295")
    | .error e => refuse e.message
  | .number =>
    match readFloat v with
    | .ok x => .ok (.number x)
    | .error e => refuse e.message

inductive Action where
  | history (range : Option String)
  | transactions (form : QueryForm)
  | exportCsv (form : QueryForm) (out : String)
  | volume (days : Option UInt32)
  | portfolio (solPrice : Option Float)

structure Invocation where
  config : Option String
  seed : Option UInt64
  transactionSeed : Option UInt64
  logFilter : Option String
  json : Bool
  action : Action

inductive Request where
  | run (i : Invocation)
  | showHelp (page : String)
  | showVersion
  | refuse (e : UsageError)

/-- What one scope has read so far. -/
structure Reading where
  /-- the options that took effect, in the order they did, with their values -/
  given : List (Opt × Given) := []
  /-- an option waiting for its value, and the value once it came -/
  pending : Option (Opt × Option String) := none
  /-- whether `--` has been passed -/
  escaped : Bool := false

namespace Reading

def awaiting (r : Reading) : Bool :=
  match r.pending with
  | some (_, none) => true
  | _ => false

def has (r : Reading) (o : Opt) : Bool := r.given.any (·.1.long == o.long)

def lookup (r : Reading) (long : String) : Option Given :=
  (r.given.find? (·.1.long == long)).map (·.2)

def used (r : Reading) : List Opt := r.given.map (·.1)

/-- An option takes effect with its value, if it takes one. -/
def act (s : Scope) (r : Reading) (o : Opt) (v : Option String) : Except Request Reading := do
  if o.takesValue && v.isNone then throw (.refuse (.missingValue o))
  if o.long == helpOption.long then throw (.showHelp s.helpPage)
  if o.long == versionOption.long then throw .showVersion
  if r.has o then throw (.refuse (.repeated o s.plainUsage))
  let g ← match v with
    | some v => (o.read v).mapError .refuse
    | none => pure .flag
  return { r with given := r.given ++ [(o, g)] }

/-- The waiting option takes effect, if there is one. -/
def resolve (s : Scope) (r : Reading) : Except Request Reading :=
  match r.pending with
  | some (o, v) => act s { r with pending := none } o v
  | none => .ok r

/-- An option takes effect once the waiting one has. -/
def react (s : Scope) (r : Reading) (o : Opt) (v : Option String) : Except Request Reading := do
  act s (← resolve s r) o v

/-- The options in effect after the waiting one is settled on the way to another
refusal, whose report lists them: one without a value is dropped, one given twice
is no longer counted, and any other counts even if its value is bad. -/
def settled (r : Reading) : Reading :=
  match r.pending with
  | some (o, some _) =>
    let r := { r with pending := none }
    if r.has o then { r with given := r.given.filter (·.1.long != o.long) }
    else { r with given := r.given ++ [(o, .flag)] }
  | _ => { r with pending := none }

/-- Counts an option as given, for the usage line of a report. -/
def mention (r : Reading) (o : Opt) : Reading :=
  if r.has o then r else { r with given := r.given ++ [(o, .flag)] }

end Reading

def findCommand (name : String) : Option Command := commands.find? (·.name == name)

/-- The scope whose help page `help` shows for the names after it. -/
def helpScope : Scope → List String → Except UsageError Scope
  | s, [] => .ok s
  | .top, t :: rest =>
    match findCommand t with
    | some c => helpScope (.command c) rest
    | none =>
      if t == "help" then helpScope .helpCommand rest
      else .error (.unknownCommand t [] .top)
  | s, t :: _ => .error (.unknownCommand t [] s)

def helpFor (names : List String) : Request :=
  match helpScope .top names with
  | .ok s => .showHelp s.helpPage
  | .error e => .refuse e

def closestName (given : String) (known : List String) : Option String :=
  (similarNames given known).getLast?

/-- A command named later on the line that has an option close to an unknown one: the
first such command named, with that option. -/
def optionElsewhere (name : String) (later : List String) : Option ArgTip :=
  let found := commands.filterMap fun c =>
    match closestName name (c.accepted.map (·.long)), later.idxOf? c.name with
    | some f, some at_ => some (at_, ArgTip.elsewhere c.name ("--" ++ f))
    | _, _ => none
  let best := found.foldl (fun acc x =>
    match acc with
    | some y => if x.1 < y.1 then some x else some y
    | none => some x) none
  best.map (·.2)

/-- The refusal of a word that is neither an option, nor a value, nor a command here. -/
def misplaced (s : Scope) (r : Reading) (t : String) : UsageError :=
  if r.escaped && s.hasCommands && commandNames.contains t then
    .unknownArgument t (some (.separator t)) s.plainUsage
  else if s.hasCommands then .unknownCommand t (similarNames t commandNames) s
  else .unknownArgument t none s.plainUsage

/-- The refusal of an unknown long option, `later` being the words after it. -/
def unknownLong (s : Scope) (r : Reading) (name : String) (later : List String) : UsageError :=
  let r := r.settled
  let arg := "--" ++ name
  match closestName name (s.options.map (·.long)) with
  | some f =>
    let r := match s.options.find? (·.long == f) with
      | some o => r.mention o
      | none => r
    .unknownArgument arg (some (.similar ("--" ++ f))) (s.usageNaming r.used)
  | none =>
    let tip := if s.hasCommands then optionElsewhere name later else none
    .unknownArgument arg tip (s.usageNaming r.used)

def readLong (s : Scope) (r : Reading) (body : String) (later : List String) :
    Except Request Reading :=
  let (name, value) := match body.splitOn "=" with
    | [] => (body, none)
    | n :: vs => (n, if vs.isEmpty then none else some ("=".intercalate vs))
  match s.options.find? (·.long == name) with
    | some o =>
      if o.takesValue then
        match value with
        | some v => r.react s o (some v)
        | none => do
          let r ← r.resolve s
          return { r with pending := some (o, none) }
      else
        match value with
        | some v => throw (.refuse (.unexpectedValue v o (s.usageAfterFlag r.used o)))
        | none => r.react s o none
    | none => throw (.refuse (unknownLong s r name later))

/-- Reads a cluster of short options: flags take effect one by one, and an option that
takes a value takes the rest of the cluster (less a leading `=`), or else the next word. -/
def readShort (s : Scope) : Reading → List Char → Except Request Reading
  | r, [] => .ok r
  | r, c :: more =>
    match s.options.find? (·.short == some c) with
    | some o =>
      if !o.takesValue then do
        readShort s (← r.react s o none) more
      else if more.isEmpty then do
        let r ← r.resolve s
        return { r with pending := some (o, none) }
      else
        let v := match more with
          | '=' :: rest => rest
          | rest => rest
        r.react s o (some (String.ofList v))
    | none => throw (.refuse (.unknownArgument ("-" ++ c.toString) none s.plainUsage))

inductive Effect where
  | next (r : Reading)
  /-- a command is named; the words after it are its own -/
  | enter (r : Reading) (c : Command)

def readWord (s : Scope) (r : Reading) (t : String) (later : List String) :
    Except Request Effect :=
  if r.escaped then throw (.refuse (misplaced s r t))
  else if !r.awaiting && s.hasCommands && commandNames.contains t then
    match findCommand t with
    | some c => .ok (.enter r c)
    | none => throw (helpFor later)
  else if t == "--" then .ok (.next { r with escaped := true })
  else if t.startsWith "--" then .next <$> readLong s r (t.drop 2).toString later
  else if t.startsWith "-" && t != "-" then .next <$> readShort s r (t.drop 1).toString.toList
  else match r.pending with
    | some (o, none) => .ok (.next { r with pending := some (o, some t) })
    | _ => throw (.refuse (misplaced s r t))

inductive Ending where
  | done (r : Reading)
  /-- a command was named, followed by its words -/
  | enter (r : Reading) (c : Command) (rest : List String)

def scan (s : Scope) : Reading → List String → Except Request Ending
  | r, [] => .ok (.done r)
  | r, t :: later => do
    match ← readWord s r t later with
    | .next r => scan s r later
    | .enter r c => return .enter r c later

/-- The value of a global option: the command's if given there, else the program's. -/
def globalValue (top own : Reading) (long : String) : Option Given :=
  own.lookup long <|> top.lookup long

def Given.text? : Option Given → Option String
  | some (.text s) => some s
  | _ => none

def Given.whole? : Option Given → Option Nat
  | some (.whole n) => some n
  | _ => none

def Given.number? : Option Given → Option Float
  | some (.number x) => some x
  | _ => none

def ledgerForm (r : Reading) : QueryForm :=
  { filterType := Given.text? (r.lookup "type"), filterStatus := Given.text? (r.lookup "status"),
    dateFrom := Given.text? (r.lookup "from"), dateTo := Given.text? (r.lookup "to"),
    sortField := Given.text? (r.lookup "sort"), sortDir := Given.text? (r.lookup "dir") }

def Command.action (c : Command) (r : Reading) : Action :=
  match c.verb with
  | .history => .history (Given.text? (r.lookup "range"))
  | .transactions =>
    .transactions { ledgerForm r with
      page := Given.whole? (r.lookup "page"), pageSize := Given.whole? (r.lookup "page-size") }
  | .exportCsv => .exportCsv (ledgerForm r) ((Given.text? (r.lookup "out")).getD ".")
  | .volume => .volume ((Given.whole? (r.lookup "days")).map Nat.toUInt32)
  | .portfolio => .portfolio (Given.number? (r.lookup "sol-price"))

def Command.invocation (c : Command) (top own : Reading) : Invocation :=
  let g := globalValue top own
  { config := Given.text? (g "config"), seed := (Given.whole? (g "seed")).map Nat.toUInt64,
    transactionSeed := (Given.whole? (g "transaction-seed")).map Nat.toUInt64,
    logFilter := Given.text? (g "log-level"), json := (g "json").isSome,
    action := c.action own }

def Request.ofArgs (args : List String) : Request :=
  let parsed : Except Request Request := do
    match ← scan .top {} args with
    | .done r =>
      let r ← r.resolve .top
      return .refuse (if r.given.isEmpty then .nothingGiven else .missingCommand)
    | .enter top c rest =>
      -- a value waiting before the command is read only once the command's words are
      match ← scan (.command c) {} rest with
      | .done own =>
        let own ← own.resolve (.command c)
        return .run (c.invocation (← top.resolve .top) own)
      | .enter own _ _ => return .run (c.invocation (← top.resolve .top) own)
  match parsed with
  | .ok q => q
  | .error q => q

end SwapDesk.Cli

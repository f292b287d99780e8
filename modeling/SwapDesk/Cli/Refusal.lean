import SwapDesk.Cli.Help

/-! # Why a command line is refused

Each refusal renders as an `error: ` line, a tip and the usage line where they help, and a
pointer to `--help`; an empty command line gets the help page.
-/

namespace SwapDesk.Cli

/-- A hint after an unknown argument. -/
inductive ArgTip where
  /-- an option of this scope with a similar name -/
  | similar (flag : String)
  /-- an option with a similar name that a command named later accepts -/
  | elsewhere (command flag : String)
  /-- a command named after `--`, which stops it from being one -/
  | separator (command : String)

inductive UsageError where
  | nothingGiven
  /-- An argument that is neither an option nor a value here. -/
  | unknownArgument (arg : String) (tip : Option ArgTip) (usage : String)
  /-- A word where a command is expected that names none; `similar` lists the commands
  with a close name, the closest last. -/
  | unknownCommand (name : String) (similar : List String) (scope : Scope)
  | invalidValue (value : String) (opt : Opt) (reason : String)
  | missingValue (opt : Opt)
  /-- A value attached to an option that takes none. -/
  | unexpectedValue (value : String) (opt : Opt) (usage : String)
  | repeated (opt : Opt) (usage : String)
  | missingCommand

def moreHelp : String := "\n\nFor more information, try '--help'.\n"

def ArgTip.text : ArgTip → String
  | .similar f => "a similar argument exists: '" ++ f ++ "'"
  | .elsewhere c f => "'" ++ c ++ " " ++ f ++ "' exists"
  | .separator c => "subcommand '" ++ c ++ "' exists; to use it, remove the '--' before it"

def similarCommandsTip : List String → String
  | [] => ""
  | [c] => "\n\n  tip: a similar subcommand exists: '" ++ c ++ "'"
  | cs => "\n\n  tip: some similar subcommands exist: " ++
    ", ".intercalate (cs.map fun c => "'" ++ c ++ "'")

def UsageError.message : UsageError → String
  | .nothingGiven => Scope.top.helpPage
  | .unknownArgument a tip usage =>
    "error: unexpected argument '" ++ a ++ "' found" ++
      (match tip with | some t => "\n\n  tip: " ++ t.text | none => "") ++
      "\n\nUsage: " ++ usage ++ moreHelp
  | .unknownCommand n similar scope =>
    "error: unrecognized subcommand '" ++ n ++ "'" ++ similarCommandsTip similar ++
      "\n\nUsage: " ++ scope.plainUsage ++ (if scope.offersHelp then moreHelp else "\n")
  | .invalidValue v o reason =>
    "error: invalid value '" ++ v ++ "' for '" ++ o.display ++ "': " ++ reason ++ moreHelp
  | .missingValue o =>
    "error: a value is required for '" ++ o.display ++ "' but none was supplied" ++ moreHelp
  | .unexpectedValue v o usage =>
    "error: unexpected value '" ++ v ++ "' for '" ++ o.display ++
      "' found; no more were expected" ++ "\n\nUsage: " ++ usage ++ moreHelp
  | .repeated o usage =>
    "error: the argument '" ++ o.display ++ "' cannot be used multiple times" ++
      "\n\nUsage: " ++ usage ++ moreHelp
  | .missingCommand =>
    "error: '" ++ programName ++ "' requires a subcommand but one was not provided\n" ++
      "  [subcommands: " ++ ", ".intercalate commandNames ++ "]" ++
      "\n\nUsage: " ++ Scope.top.plainUsage ++ moreHelp

end SwapDesk.Cli

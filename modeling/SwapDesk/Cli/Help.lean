import SwapDesk.Cli.Grammar
import SwapDesk.Text.Pad

/-! # Help pages and usage lines

Usage lines, plain or naming the options given, help pages and the version line, rendered from
the grammar. Help texts start two blanks after the longest option, or on lines of their own
when they would not fit on a page of 100 columns.
-/

namespace SwapDesk.Cli

/-- Where a word of the command line is read: before any command, inside a command, or
after `help`. -/
inductive Scope where
  | top
  | command (c : Command)
  | helpCommand

namespace Scope

def path : Scope → String
  | .top => programName
  | .command c => programName ++ " " ++ c.name
  | .helpCommand => programName ++ " help"

def options : Scope → List Opt
  | .top => topOptions
  | .command c => c.accepted
  | .helpCommand => []

def hasCommands : Scope → Bool
  | .top => true
  | _ => false

/-- Whether the scope has a help option, to which the last line of a report points. -/
def offersHelp : Scope → Bool
  | .helpCommand => false
  | _ => true

/-- The options the scope's usage line may show together as one alternative. -/
def group : Scope → List Opt
  | .top => globalOptions
  | .command c => c.grouped
  | .helpCommand => []

def plainUsage : Scope → String
  | .top => programName ++ " [OPTIONS] <COMMAND>"
  | .command c => programName ++ " " ++ c.name ++ " [OPTIONS]"
  | .helpCommand => programName ++ " help [COMMAND]..."

/-- The usage line that names the options given so far, or the plain one when none is. -/
def usageNaming (s : Scope) (used : List Opt) : String :=
  if used.isEmpty then s.plainUsage
  else
    s.path ++ String.join (used.map fun o => " " ++ o.display) ++
      (if s.hasCommands then " <COMMAND>" else "")

/-- The usage line of a report on a flag given a value: the options that took effect
and the flag, each once. When an option of the scope's group took effect, its members are
left out and the whole group follows the others as `<a|b|…>`. -/
def usageAfterFlag (s : Scope) (used : List Opt) (flag : Opt) : String :=
  let member := fun (o : Opt) => s.group.any (·.long == o.long)
  let grouped := used.any member
  let named := used ++ (if used.any (·.long == flag.long) then [] else [flag])
  let singles := if grouped then named.filter (!member ·) else named
  let parts := singles.map (·.display) ++
    (if grouped then ["<" ++ "|".intercalate (s.group.map (·.display)) ++ ">"] else [])
  s.path ++ String.join (parts.map (" " ++ ·)) ++ (if s.hasCommands then " <COMMAND>" else "")

end Scope

/-- Whether `a` is listed before `b`: by place, then by key. -/
def Opt.listedBefore (a b : Opt) : Bool :=
  a.order < b.order || (a.order == b.order && decide (a.sortKey ≤ b.sortKey))

def Opt.helpText (o : Opt) : String :=
  match o.default with
  | some d => o.help ++ (if o.help.isEmpty then "" else " ") ++ "[default: " ++ d ++ "]"
  | none => o.help

/-- The width of an option's help text with its default, not counting the blank between
them. -/
def Opt.helpWidth (o : Opt) : Nat :=
  o.help.length + (match o.default with | some d => ("[default: " ++ d ++ "]").length | none => 0)

def pageWidth : Nat := 100

/-- Whether help texts go on lines of their own: when the options, with room for the short
forms and the blanks, take more than two fifths of the page and some help text does not fit
in the rest. -/
def helpOnNextLine (opts : List Opt) : Bool :=
  let taken := (opts.map fun o => o.display.length + 4).foldl max 2 + 4
  taken ≤ pageWidth && 2 * pageWidth < 5 * taken &&
    opts.any fun o => pageWidth - taken < o.helpWidth

/-- The lines of an option list: the short form or room for it, the long form, then the
help text two blanks after the longest option, or on a line of its own indented by ten. -/
def optionLines (opts : List Opt) : List String :=
  let longest := (opts.map fun o => o.display.length).foldl max 0
  let nextLine := helpOnNextLine opts
  (opts.mergeSort Opt.listedBefore).map fun o =>
    let short := match o.short with
      | some c => "-" ++ c.toString ++ ", "
      | none => "    "
    if nextLine then "  " ++ short ++ o.display ++ "\n" ++ "".pushn ' ' 10 ++ o.helpText
    else "  " ++ short ++ padRight o.display (longest + 2) ++ o.helpText

def commandLines : List String :=
  let entries := commands.map (fun c => (c.name, c.about)) ++ [("help", helpCommandAbout)]
  let longest := (entries.map fun e => e.1.length).foldl max 0
  entries.map fun (name, about) => "  " ++ padRight name (longest + 2) ++ about

def Scope.helpPage : Scope → String
  | .top =>
    programAbout ++ "\n\nUsage: " ++ Scope.top.plainUsage ++ "\n\nCommands:\n" ++
      "\n".intercalate commandLines ++ "\n\nOptions:\n" ++
      "\n".intercalate (optionLines topOptions) ++ "\n"
  | .command c =>
    c.about ++ "\n\nUsage: " ++ (Scope.command c).plainUsage ++ "\n\nOptions:\n" ++
      "\n".intercalate (optionLines c.accepted) ++ "\n"
  | .helpCommand =>
    helpCommandAbout ++ "\n\nUsage: " ++ Scope.helpCommand.plainUsage ++
      "\n\nArguments:\n  [COMMAND]...  Print help for the subcommand(s)\n"

def versionText : String := programName ++ " " ++ programVersion ++ "\n"

end SwapDesk.Cli

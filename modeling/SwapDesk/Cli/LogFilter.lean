import SwapDesk.Text.Lower
import SwapDesk.Text.Blank
import SwapDesk.Text.Property
import SwapDesk.Text.Bytes
import SwapDesk.Decimal.Literal
import SwapDesk.Regex.Check

/-! # Log filters

Comma-separated directives, the first faulty one deciding the fault. A directive is a level, or
a target, an optional span `[name{fields}]` and an optional `=level`. Its pieces are located in
the directive without blanks but cut, by byte offsets, from the directive as written, so leading
blanks shift the cuts, and a cut inside a character stops the program.
-/

namespace SwapDesk

inductive FilterFault where
  | badDirective
  | badLevel
  /-- A field value that is a pattern the automata cannot take. -/
  | badField (pattern : String) (fault : Regex.PatternFault)
  /-- A cut of a directive lands inside a character: the program stops. -/
  | splitCharacter
  deriving DecidableEq, Repr

/-- What a refused level says. -/
def levelRefusal : String :=
  "error parsing level filter: expected one of \"off\", \"error\", \"warn\", \"info\", " ++
    "\"debug\", \"trace\", or a number 0-5"

/-- Why an automaton refuses a word boundary that looks at Unicode word characters. -/
def unicodeBoundaryRefusal : String :=
  "unsupported regex feature for DFAs: cannot build DFAs for regexes with Unicode word " ++
    "boundaries; switch to ASCII word boundaries, or heuristically enable Unicode word " ++
    "boundaries or use a different regex engine"

/-- The causes a report gives for a fault, outermost first: a refused level is reported
by the directive and again by the level itself, and a refused pattern through the stages
of building its automaton. -/
def FilterFault.causes : FilterFault → List String
  | .badDirective => ["invalid filter directive"]
  | .badLevel => [levelRefusal, levelRefusal]
  | .badField p (.invalid e) =>
    ["invalid field filter: error building NFA", "error building NFA", "error parsing regex",
      e.render p]
  | .badField _ .unicodeWordBoundary =>
    ["invalid field filter: " ++ unicodeBoundaryRefusal, unicodeBoundaryRefusal]
  | .splitCharacter => ["a directive cut inside a character"]

def levelNames : List String := ["off", "error", "warn", "info", "debug", "trace"]

/-- Whether a directive, blanks left out, is a level on its own. -/
def isBareLevel (ts : List Char) : Bool :=
  levelNames.any (asciiCaseEq (String.ofList ts) ·) ||
    match ts with
    | [c] => '0' ≤ c && c ≤ '5'
    | _ => false

/-- Whether digits, all of them, name a number from 0 to 5. -/
def isLevelNumber (ds : List Char) : Bool :=
  !ds.isEmpty && ds.all Char.isDigit &&
    ds.foldl (fun acc c => min 6 (10 * acc + (c.toNat - '0'.toNat))) 0 ≤ 5

def isLevelText (s : String) : Bool :=
  s.isEmpty || levelNames.any (asciiCaseEq s ·) ||
    match s.toList with
    | '+' :: ds => isLevelNumber ds
    | ds => isLevelNumber ds

def isTargetStart (c : Char) : Bool := isAlphanumeric c || c = '_' || c = ':' || c = '-'

/-- Whether a field value is a plain value rather than a pattern. -/
def isPlainValue (v : String) : Bool :=
  v = "true" || v = "false" || (readFloat v).toBool

/-- The check of fields `name=value`: the value, between the first `=` and the next, is
checked as a pattern unless it is plain. -/
def fieldsCheck (fields : List Char) : Except FilterFault Unit :=
  match fields.splitOn '=' with
  | _ :: value :: _ =>
    let v := String.ofList value
    if isPlainValue v then .ok ()
    else match Regex.fault? v with
      | some f => .error (.badField v f)
      | none => .ok ()
  | _ => .ok ()

/-- The characters of a written directive between two byte offsets, if both fall on
character boundaries. -/
def cut? (ds : List Char) (a b : Nat) : Option (List Char) := do
  let i ← charsInBytes? ds a
  let j ← charsInBytes? ds b
  return (ds.drop i).take (j - i)

def indexFrom (cs : List Char) (i : Nat) (stop : Char → Bool) : Option Nat :=
  ((cs.drop i).findIdx? stop).map (i + ·)

def directiveCheck (d : String) : Except FilterFault Unit := do
  let ts := (trimBlank d).toList
  if isBareLevel ts then return
  let ds := d.toList
  -- a piece between two positions of the directive without blanks, cut from it as written
  let piece (i j : Nat) : Except FilterFault (List Char) :=
    match cut? ds (byteCount (ts.take i)) (byteCount (ts.take j)) with
    | some cs => .ok cs
    | none => .error .splitCharacter
  let afterTarget ← match ts with
    | [] => throw .badDirective
    | '[' :: _ => pure 0
    | c :: _ =>
      if isTargetStart c then pure ((indexFrom ts 0 fun c => c = '[' || c = '=').getD ts.length)
      else throw .badDirective
  -- a target that runs to the end is taken whole, without a cut
  if afterTarget < ts.length then discard (piece 0 afterTarget)
  let afterSpan ← if ts[afterTarget]? = some '[' then do
      let some j := indexFrom ts (afterTarget + 1) (fun c => c = '{' || c = ']')
        | throw .badDirective
      let _ ← piece (afterTarget + 1) j
      if ts[j]? = some '{' then
        let some k := indexFrom ts (j + 1) (· = '}') | throw .badDirective
        let fields ← piece (j + 1) k
        if fields.isEmpty then throw .badDirective
        fieldsCheck fields
        if ts[k + 1]? = some ']' then pure (k + 2) else throw .badDirective
      else pure (j + 1)
    else pure afterTarget
  match ts[afterSpan]? with
  | none => pure ()
  | some '=' =>
    match cut? ds (byteCount (ts.take afterSpan) + 1) (byteCount ds) with
    | some level => if !isLevelText (String.ofList level) then throw .badLevel
    | none => throw .splitCharacter
  | some _ => throw .badDirective

def directiveFault? (d : String) : Option FilterFault :=
  match directiveCheck d with
  | .ok () => none
  | .error f => some f

/-- The fault of a log filter, if any: that of its first faulty directive. -/
def filterFault? (s : String) : Option FilterFault :=
  ((s.splitOn ",").filter (!·.isEmpty)).findSome? directiveFault?

end SwapDesk

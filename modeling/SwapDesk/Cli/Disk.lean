import SwapDesk.Dashboard.Error

/-! # Files

A run touches files through a `Disk` of four operations. `Disk.makeDirs` makes missing parents
first, the parent found by taking the path apart, which drops every `.` but a leading one, so
making `x/y/.` fails while `y` is missing. `Scratch` is an in-memory tree that walks paths as a
POSIX system does.
-/

namespace SwapDesk.Cli

/-- The file operations a run needs, in a monad `m`. -/
structure Disk (m : Type → Type) where
  readText : String → m (Except FileFault String)
  makeDir : String → m (Except FileFault Unit)
  isDir : String → m Bool
  writeText : String → String → m (Except FileFault Unit)

/-- A path joined to a directory: an absolute one replaces it, and an empty directory or
one ending in `/` takes the name without another `/`. -/
def joinPath (dir name : String) : String :=
  if name.startsWith "/" || dir.isEmpty then name
  else if dir.endsWith "/" then dir ++ name
  else dir ++ "/" ++ name

/-- A component of a path taken apart: the root, the current directory (kept only in
front), the parent directory, or a name. -/
inductive PathPart where
  | root
  | here
  | up
  | name (n : String)
  deriving DecidableEq, Repr

def PathPart.text : PathPart → String
  | .root => ""
  | .here => "."
  | .up => ".."
  | .name n => n

/-- The components of a path: separators repeated or at the end are dropped, and so is
every `.` but a leading one. -/
def pathComponents (p : String) : List PathPart :=
  let pieces := p.splitOn "/"
  let (front, body) :=
    if p.startsWith "/" then ([PathPart.root], pieces)
    else if pieces.head? == some "." then ([PathPart.here], pieces.drop 1)
    else ([], pieces)
  front ++ body.filterMap fun piece =>
    if piece.isEmpty || piece == "." then none
    else if piece == ".." then some .up
    else some (.name piece)

def componentsPath : List PathPart → String
  | .root :: rest => "/" ++ "/".intercalate (rest.map PathPart.text)
  | parts => "/".intercalate (parts.map PathPart.text)

/-- The components of a path's parent: all but the last, unless the path is the root or
empty. -/
def parentComponents (parts : List PathPart) : Option (List PathPart) :=
  match parts.getLast? with
  | none | some .root => none
  | some _ => some parts.dropLast

def wholeTreeFault : FileFault := .other "failed to create whole tree"

def Disk.makeDirs {m : Type → Type} [Monad m] (d : Disk m) (path : String) :
    m (Except FileFault Unit) :=
  let parts := pathComponents path
  go parts.length path parts
where
  /-- Tries the directory, standing if a directory is there after all. -/
  attemptDir (p : String) : m (Except FileFault Unit) := do
    match ← d.makeDir p with
    | .ok () => return .ok ()
    | .error e => return if ← d.isDir p then .ok () else .error e
  /-- Makes the directory `p` of components `parts`, its parents first when missing. -/
  go : Nat → String → List PathPart → m (Except FileFault Unit)
    | fuel, p, parts => do
      if parts.isEmpty then return .ok ()
      match ← d.makeDir p with
      | .ok () => return .ok ()
      | .error .notFound =>
        match fuel, parentComponents parts with
        | fuel + 1, some up =>
          match ← go fuel (componentsPath up) up with
          | .error e => return .error e
          | .ok () => attemptDir p
        | _, _ => return .error wholeTreeFault
      | .error e => return if ← d.isDir p then .ok () else .error e

def walkNames (p : String) : List String := (p.splitOn "/").filter (!·.isEmpty)

/-- The names of a path the system takes: a path with a NUL byte is refused before the
system sees it, an empty path names nothing, and one of 4096 bytes or more is too long. -/
def systemNames (p : String) : Except FileFault (List String) :=
  if p.contains '\x00' then .error .nulByte
  else if p.isEmpty then .error .notFound
  else if p.utf8ByteSize ≥ 4096 then .error .nameTooLong
  else .ok (walkNames p)

def tooLong (n : String) : Bool := n.utf8ByteSize > 255

/-- The components of a path for the files given to a tree, `.` and `..` resolved. -/
def pathParts (p : String) : List String :=
  ((p.splitOn "/").foldl (fun acc part =>
    if part.isEmpty || part == "." then acc
    else if part == ".." then acc.dropLast
    else acc ++ [part]) [])

structure Scratch where
  files : List (List String × String) := []
  dirs : List (List String) := []
  /-- the files written, in the order first written -/
  written : List (List String) := []

namespace Scratch

def ofFiles (fs : List (String × String)) : Scratch :=
  { files := fs.map fun (p, t) => (pathParts p, t) }

def isFile (s : Scratch) (p : List String) : Bool := s.files.any (·.1 == p)

/-- Whether a directory stands at a place: the root, a directory made, or one on the way
to a file or directory. -/
def isDirAt (s : Scratch) (p : List String) : Bool :=
  p.isEmpty || s.dirs.contains p ||
    s.files.any (fun f => f.1.length > p.length && f.1.take p.length == p) ||
    s.dirs.any (fun d => d.length > p.length && d.take p.length == p)

/-- Walks names through directories from a place: the directory reached, or why the
walk fails. -/
def walk (s : Scratch) : List String → List String → Except FileFault (List String)
  | at_, [] => .ok at_
  | at_, n :: rest =>
    if tooLong n then .error .nameTooLong
    else if n == "." then s.walk at_ rest
    else if n == ".." then s.walk at_.dropLast rest
    else
      let q := at_ ++ [n]
      if s.isDirAt q then s.walk q rest
      else if s.isFile q then .error .notADirectory
      else .error .notFound

/-- The last name of a path and the directory that holds it; a path of no names is the
root. -/
def lastEntry (s : Scratch) (p : String) : Except FileFault (Option (List String × String)) := do
  let names ← systemNames p
  match names.getLast? with
  | none => return none
  | some last =>
    let dir ← s.walk [] names.dropLast
    if tooLong last then throw .nameTooLong
    return some (dir, last)

def read (s : Scratch) (p : String) : Except FileFault String := do
  match ← s.lastEntry p with
  | none => throw .isADirectory
  | some (dir, last) =>
    if last == "." || last == ".." then throw .isADirectory
    let q := dir ++ [last]
    match s.files.find? (·.1 == q) with
    | some (_, t) => if p.endsWith "/" then throw .notADirectory else return t
    | none => throw (if s.isDirAt q then .isADirectory else .notFound)

def makeDir (s : Scratch) (p : String) : Except FileFault Scratch := do
  match ← s.lastEntry p with
  | none => throw .alreadyExists
  | some (dir, last) =>
    if last == "." || last == ".." then throw .alreadyExists
    let q := dir ++ [last]
    if s.isDirAt q || s.isFile q then throw .alreadyExists
    return { s with dirs := s.dirs ++ [q] }

def isDir (s : Scratch) (p : String) : Bool :=
  match systemNames p with
  | .ok names => (s.walk [] names).isOk
  | .error _ => false

def write (s : Scratch) (p : String) (text : String) : Except FileFault Scratch := do
  match ← s.lastEntry p with
  | none => throw .isADirectory
  | some (dir, last) =>
    if last == "." || last == ".." then throw .isADirectory
    let q := dir ++ [last]
    if s.isDirAt q then throw .isADirectory
    if p.endsWith "/" then throw (if s.isFile q then .notADirectory else .isADirectory)
    return { s with
      files := (s.files.filter (·.1 != q)) ++ [(q, text)],
      written := if s.written.contains q then s.written else s.written ++ [q] }

def writtenFiles (s : Scratch) : List (String × String) :=
  s.written.filterMap fun p => (s.files.find? (·.1 == p)).map fun (_, t) => ("/".intercalate p, t)

def disk : Disk (StateM Scratch) where
  readText path := do return (← get).read path
  makeDir path := do
    match (← get).makeDir path with
    | .ok s => set s; return .ok ()
    | .error f => return .error f
  isDir path := do return (← get).isDir path
  writeText path text := do
    match (← get).write path text with
    | .ok s => set s; return .ok ()
    | .error f => return .error f

end Scratch

end SwapDesk.Cli

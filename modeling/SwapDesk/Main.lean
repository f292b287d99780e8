import SwapDesk.Cli.Run
import Std.Time.DateTime.Timestamp

/-! # The `solswap` command

The run against the real file system and today's UTC date.
-/

namespace SwapDesk.Cli

def faultOf (e : IO.Error) : FileFault :=
  match e with
  | .noFileOrDirectory _ _ _ => .notFound
  | .alreadyExists _ _ _ => .alreadyExists
  | .inappropriateType _ 20 _ => .notADirectory
  | .inappropriateType _ 21 _ => .isADirectory
  | .invalidArgument _ 36 _ => .nameTooLong
  | e => .other (toString e)

/-- Runs a file operation on a path, refusing a path with a NUL byte first. -/
def onPath {α : Type} (path : String) (act : IO α) : IO (Except FileFault α) := do
  if path.contains '\x00' then return .error .nulByte
  try return .ok (← act) catch e => return .error (faultOf e)

/-- The running system's files. A path names a directory when it opens for reading and
reading it is refused as a directory. -/
def systemDisk : Disk IO where
  readText path := onPath path (IO.FS.readFile path)
  makeDir path := onPath path (IO.FS.createDir path)
  isDir path := do
    match ← onPath path (do
        let h ← IO.FS.Handle.mk path .read
        let _ ← h.read 1) with
    | .error .isADirectory => return true
    | _ => return false
  writeText path text := onPath path (IO.FS.writeFile path text)

def currentDate : IO Date := do
  let now ← Std.Time.Timestamp.now
  return ⟨now.toSecondsSinceUnixEpoch.val / 86400⟩

end SwapDesk.Cli

def main (args : List String) : IO UInt32 := do
  let env ← IO.getEnv "RUST_LOG"
  let o ← SwapDesk.Cli.run SwapDesk.Cli.systemDisk env args (← SwapDesk.Cli.currentDate)
  IO.print o.stdout
  IO.eprint o.stderr
  return o.exit.toUInt32

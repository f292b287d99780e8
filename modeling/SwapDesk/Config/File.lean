import SwapDesk.Config.Decode
import SwapDesk.Toml.Report

/-! # Settings files

The settings, or the report of a file's first problem.
-/

namespace SwapDesk

def Config.ofToml (text : String) : Except String Config :=
  match Toml.read text with
  | .error f => .error (Toml.report text f.offset (Toml.charWidth text f.offset) f.message)
  | .ok root =>
    match Config.ofJson .ignored (.obj (Toml.entriesJson root)) with
    | .ok c => .ok c
    | .error e =>
      match Toml.spanAt e.path root with
      | some s => .error (Toml.report text s.start (Toml.spanWidth text s) e.error.message)
      | none =>
        let keys := e.path.filterMap fun | .key k => some k | .item _ => none
        .error (e.error.message ++ "\n" ++
          (if keys.isEmpty then "" else "in `" ++ ".".intercalate keys ++ "`\n"))

end SwapDesk

import Attribution.Content

/-!
Reading the manifest file that a user names.
-/

namespace Attribution

/-- Why no manifest was read. -/
inductive ScanError where
  | noPath
  | unsupported (name : String)
  | failure (f : Failure)
  deriving DecidableEq, Repr

def ScanError.text : ScanError → String
  | noPath => "source_path must be set before calling scan()"
  | unsupported name =>
    "No scanner available for '" ++ name ++ "'. Supported files: " ++ GoMod.fileName
  | failure f => f.text

namespace Content

variable {σ : Type}

/-- Reads a manifest file; the directory it really lies in becomes the manifest's. -/
def scan (disk : Disk) (path : Path) : Run σ PlacedManifest :=
  match disk.isFile path, disk.read path, disk.resolve path with
  | .error refusal, _, _ => throw (.fault (.refusedFile refusal path))
  | .ok true, .ok data, .ok real => readManifest data (some real.parent)
  | _, _, _ =>
    Run.fail .manifestNotFound
      (some (GoMod.fileName ++ " file not found: " ++ path.toString)) none

/-- Whether a path names a file of a kind that can be read. -/
def isSupported (path : Path) : Bool := path.name == GoMod.fileName

end Content

end Attribution

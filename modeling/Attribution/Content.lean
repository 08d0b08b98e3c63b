import Attribution.Disk
import Attribution.Download
import Attribution.GoMod.Parser

/-!
The content of required modules: their manifests and license texts, out of a directory or out of an
archive.
-/

namespace Attribution

/-- What was found for a module. A module without a manifest requires nothing. -/
structure Content where
  manifest : Option PlacedManifest
  license : Option Bytes
  deriving DecidableEq, Repr

/-- How the content of a requirement is found, for the manifest that declares it. -/
abbrev Resolver (σ : Type) := PlacedManifest → Requirement → Run σ Content

namespace Content

variable {σ : Type}

/-- Reads a manifest that lies in a directory or in none. -/
def readManifest (data : Bytes) (directory : Option Path) : Run σ PlacedManifest :=
  match GoMod.parse data with
  | .error fault => Run.fail .manifestMalformed (some fault.message) none
  | .ok m => do
    Run.debug ("Parsed " ++ m.module.text ++ ": " ++ toString m.requires.length ++
      " requirement(s), " ++ toString m.replaces.length ++ " replacement(s)")
    return ⟨m, directory⟩

/-- Those of the names in a directory that lead to files, each with its content. -/
def filesIn (disk : Disk) (directory : Path) :
    List String → Except Fault (List (String × Bytes))
  | [] => .ok []
  | name :: rest =>
    let path := directory ++ (⟨"", [name]⟩ : Path)
    match disk.isFile path, disk.read path with
    | .error refusal, _ => .error (.refusedFile refusal path)
    | .ok true, .ok data => (filesIn disk directory rest).map ((name, data) :: ·)
    | _, _ => filesIn disk directory rest

/-- The content of the directory at a path without links. -/
def ofDirectory (disk : Disk) (directory : Path) : Run σ Content := do
  Run.debug ("Looking at " ++ directory.toString)
  match disk.list directory with
  | .error refusal =>
    Run.fail .localReplacement
      (some ("cannot list " ++ directory.toString ++ ": " ++ refusal.message directory)) none
  | .ok names =>
    match filesIn disk directory names with
    | .error fault => throw (.fault fault)
    | .ok files =>
      let license := (files.find? fun f => isLicenseName f.1).map (·.2)
      match files.find? fun f => f.1 == GoMod.fileName with
      | none =>
        Run.debug ("No go.mod in " ++ directory.toString ++ ", treating it as a leaf")
        return ⟨none, license⟩
      | some (_, data) =>
        let manifest ← readManifest data (some directory)
        return ⟨some manifest, license⟩

/-- The content of a directory, given relative to the manifest that declares it. -/
def inDirectory (disk : Disk) (parent : PlacedManifest) (path : String) : Run σ Content :=
  match parent.directory with
  | none =>
    Run.fail .localReplacement
      (some ("cannot locate " ++ path ++ ": declaring manifest has no directory")) none
  | some base =>
    match disk.resolve (base ++ Path.ofString path) with
    | .error e => throw (.fault (.deadEnd e))
    | .ok directory => ofDirectory disk directory

/-- The content of a module's archive. -/
def ofPayload (v : ModuleVersion) (payload : Payload) : Run σ Content :=
  match payload.entries? with
  | none => Run.fail .download (some Download.Cause.badArchive.message) (some v)
  | some entries =>
    match Archive.pick (Archive.starts v) ⟨none, none⟩ entries with
    | .error fault => throw (.fault fault)
    | .ok pick => do
      if pick.license.isNone then
        Run.debug ("No license file in " ++ v.text ++ " archive")
      match pick.manifest with
      | none =>
        Run.debug ("No go.mod in " ++ v.text ++ " archive, treating it as a leaf")
        return ⟨none, pick.license⟩
      | some data =>
        let manifest ← readManifest data none
        return ⟨some manifest, pick.license⟩

/-- The content of a published module. -/
def remote (fetch : ModuleVersion → Run σ Payload) (v : ModuleVersion) : Run σ Content := do
  Run.debug ("Downloading " ++ v.text ++ " content")
  let payload ← fetch v
  ofPayload v payload

/-- The content of a requirement: that of its replacement, or of the module itself. -/
def resolve (disk : Disk) (fetch : ModuleVersion → Run σ Payload) : Resolver σ :=
  fun parent r =>
    match r.replacement with
    | some (.directory path) => inDirectory disk parent path
    | some (.module v) => remote fetch v
    | none => remote fetch r.version

end Content

end Attribution

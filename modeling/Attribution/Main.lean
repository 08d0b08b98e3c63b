import Attribution.CommandLine
import Attribution.License.Expression.Parser
import Std.Time.Zoned

/-!
The program. It takes from the machine what a command line needs, runs it, and leaves there what the
command wrote. There is no network here: every request fails, which a lenient command puts up with.
Nor are there templates but the one for Markdown.
-/

namespace Attribution.Machine

def bytes (data : ByteArray) : Bytes := data.toList

/-- The place of a path that exists, links followed. -/
def realPlace? (p : Path) : IO (Option Path) := do
  try
    return some (Path.ofString (← IO.FS.realPath p.toString).toString)
  catch _ => return none

/-- Whether the file of a module directory is looked into. -/
def isLookedInto (name : String) : Bool := isLicenseName name || name == GoMod.fileName

/-- Adds a file with its content, if there is one. -/
def loadFile (p : Path) (disk : Disk) : IO Disk := do
  try
    return disk.put (disk.place p) (.file (bytes (← IO.FS.readBinFile p.toString)))
  catch _ => return disk

/-- Adds a directory and what lies in it. Of most files only the name matters. -/
def loadDirectory (directory : Path) (disk : Disk) : IO Disk := do
  let mut disk := disk.put directory.names .directory
  for e in ← ((← IO.currentDir) / directory.toString).readDir do
    let place := directory ++ (⟨"", [e.fileName]⟩ : Path)
    if ← e.path.isDir then disk := disk.put place.names .directory
    else if isLookedInto e.fileName then disk ← loadFile place disk
    else disk := disk.put place.names (.file [])
  return disk

/-- Adds what lies at a path: a file, a directory, or a link to one. -/
def load (p : Path) (disk : Disk) : IO Disk := do
  match ← realPlace? p with
  | none => return disk
  | some real =>
    let disk := if real = p then disk else disk.put p.names (.link real.toString)
    if ← ((← IO.currentDir) / real.toString).isDir then loadDirectory real disk
    else return disk.put real.names (.file [])

/-- The directories that stand in for modules, for the manifest in a directory. -/
def replacedBy (directory : Path) (disk : Disk) : List Path :=
  match disk.read (directory ++ Path.ofString GoMod.fileName) with
  | .error _ => []
  | .ok data =>
    match GoMod.parse data with
    | .error _ => []
    | .ok m => m.replaces.filterMap fun
      | (_, .directory path) => (disk.resolve (directory ++ Path.ofString path)).toOption
      | (_, .module _) => none

/-- Adds directories, and those that stand in for the modules they require. -/
partial def gather (seen : List Path) (disk : Disk) : List Path → IO Disk
  | [] => return disk
  | directory :: rest => do
    if seen.contains directory then gather seen disk rest
    else
      let disk ← load directory disk
      let real := (disk.resolve directory).toOption.getD directory
      gather (directory :: seen) disk (rest ++ replacedBy real disk)

/-- What the options of a command line name. -/
def disk (o : CommandLine.Options) : IO Disk := do
  let here := Path.ofString (← IO.currentDir).toString
  let start : Disk := ⟨here.names, [(here.names, .directory)]⟩
  let place (name : String) : Path :=
    (start.resolve (Path.ofString name)).toOption.getD (Path.ofString name)
  let mut disk ← gather [] start [(place o.modfile).parent, (place o.output).parent]
  for name in o.output :: (o.header.toList ++ o.template.toList) do
    disk ← loadFile (place name) disk
  return disk

/-- Writes the files that a command made. -/
def save (before after : Disk) : IO Unit :=
  after.items.forM fun (place, item) => do
    match item with
    | .file data =>
      unless before.item? place = some (.file data) do
        IO.FS.writeBinFile (Path.absolute place).toString (ByteArray.mk data.toArray)
    | _ => return

def today : IO Report.Date := do
  let date ← Std.Time.PlainDate.now
  return ⟨date.year.toInt.toNat, date.month.val.toNat, date.day.val.toNat⟩

/-- No request gets an answer. -/
def offline : Download.Transport Unit := fun _ s => (.failed "no connection", s)

def usage : String :=
  "usage: attribution gen|tree [-m FILE] [-d DEPTH] [--lenient] [--proxy URL]\n" ++
  "  [--threshold NUMBER] [-v], and for gen [-o FILE] [--header FILE] [-t FILE]"

end Attribution.Machine

open Attribution

def main (arguments : List String) : IO UInt32 := do
  match CommandLine.Request.ofArguments (fun _ => true) arguments with
  | .usage =>
    IO.eprintln Machine.usage
    return 2
  | .help =>
    IO.println Machine.usage
    return 0
  | .run _ options =>
    let disk ← Machine.disk options
    let outcome := CommandLine.run
      { arguments, disk
        proxySetting := ← IO.getEnv "GOPROXY"
        today := ← Machine.today
        transport := Machine.offline
        network := ()
        reader := License.Expression.reader
        engine := fun _ _ => none
        console := CommandLine.Console.plain }
    outcome.log.forM fun line => IO.eprintln line.print
    IO.print outcome.out
    IO.eprint outcome.err
    if outcome.exitCode = 2 then IO.eprintln Machine.usage
    Machine.save disk outcome.disk
    return UInt32.ofNat outcome.exitCode

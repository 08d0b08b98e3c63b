import Attribution.CommandLine.Console
import Attribution.CommandLine.Options
import Attribution.Graph.Builder
import Attribution.Report
import Attribution.Report.Engine
import Attribution.Scan
import Attribution.Text.Sequence

/-!
The command line: one command writes a report, the other prints the tree of dependencies. A report
is written only after everything else has succeeded.
-/

namespace Attribution.CommandLine

open Text Download

/-- What the outer world gives to a command. -/
structure Environment (σ : Type) where
  arguments : List String
  proxySetting : Option String
  today : Report.Date
  disk : Disk
  transport : Transport σ
  network : σ
  reader : License.ExpressionReader
  engine : Report.Engine
  console : Console

/-- What a command leaves behind. Nothing was printed by one that was not understood. -/
structure Outcome (σ : Type) where
  exitCode : Nat
  out : String
  err : String
  disk : Disk
  log : List LogLine
  wire : Wire σ

/-- What a command has done so far. -/
structure Screen where
  out : List Char
  err : List Char
  disk : Disk

/-- A step of a command. A command that stops early leaves what it has done. -/
abbrev Step := ExceptT Unit (StateM Screen)

namespace Step

/-- The text as a terminal shows it. -/
def layOut (c : Console) (text : String) : Step (List Char) :=
  match c text with
  | none => throw ()
  | some s => return s

def print (c : Console) (text : String) : Step Unit := do
  let s ← layOut c text
  modify fun t => { t with out := t.out ++ s }

def printError (c : Console) (text : String) : Step Unit := do
  let s ← layOut c text
  modify fun t => { t with err := t.err ++ s }

/-- Prints a text as it is, but for what would steer the terminal. -/
def echo (text : String) : Step Unit :=
  modify fun t => { t with out := t.out ++ dropSequences text.toList }

def stop {α : Type} : Step α := throw ()

end Step

variable {σ : Type}

/-- Why a build has no tree. -/
inductive BuildError where
  | scan (e : ScanError)
  | threshold (given : Number.Given)
  | failure (f : Failure)

def BuildError.text : BuildError → String
  | scan e => e.text
  | threshold given => License.Threshold.refusal given
  | failure f => f.text

/-- Whether an error is reported, and not an accident that ends the program. -/
def BuildError.isReported : BuildError → Bool
  | scan (.failure (.fault f)) | failure (.fault f) => f.isBadValue
  | _ => true

/-- The settings for downloads from the proxy that is asked for, or that the setting names. -/
def settings (o : Options) (proxySetting : Option String) : Settings :=
  { Settings.default with
    proxy := o.proxy.getD (Proxy.choose (proxySetting.getD "")) }

/-- Builds the tree of the manifest that the options name. -/
def buildTree (env : Environment σ) (o : Options) :
    Except BuildError Tree × Scene (Wire σ) :=
  let path := Path.ofString o.modfile
  let start : Scene (Wire σ) := ⟨⟨env.network, []⟩, []⟩
  if !Content.isSupported path then (.error (.scan (.unsupported path.name)), start)
  else
    match (Content.scan env.disk path).run.run start with
    | (.error f, scene) => (.error (.scan (.failure f)), scene)
    | (.ok root, scene) =>
      let s := settings o env.proxySetting
      let scene :=
        { scene with log := scene.log ++ [⟨.debug, "Using module proxy " ++ s.proxy⟩] }
      match License.Threshold.of? o.threshold with
      | none => (.error (.threshold o.threshold), scene)
      | some t =>
        let b : Builder (Wire σ) :=
          ⟨Content.resolve env.disk (fetch s env.transport), License.classify env.reader t, o.lenient⟩
        match b.build root o.depth { BuildState.fresh scene.world with toScene := scene } with
        | (.error f, s) => (.error (.failure f), s.toScene)
        | (.ok tree, s) => (.ok tree, s.toScene)

/-- The tree, or the end of the command with a word on why there is none. -/
def treeOrStop (c : Console) : Except BuildError Tree → Step Tree
  | .ok tree => return tree
  | .error e => do
    if e.isReported then Step.printError c ("[red]Error:[/red] " ++ e.text)
    Step.stop

/-- Says how many modules a tree has, and which licenses are unknown. -/
def summarize (c : Console) (t : Tree) : Step Unit := do
  Step.print c ("Found [bold]" ++ toString t.modules.length ++ "[/bold] modules")
  let unknown := t.modules.filter (·.licenseName = some License.unknownName)
  unless unknown.isEmpty do
    Step.print c ("[yellow]Unknown licenses (" ++ toString unknown.length ++
      "), review required:[/yellow]")
    unknown.forM fun n => Step.print c ("  - " ++ n.version.text)

/-- The text of a file with every kind of line end read as a line feed. -/
def readText (path : String) : Step (List Char) := do
  match (← get).disk.read (Path.ofString path) with
  | .error _ => Step.stop
  | .ok data =>
    match Utf8.decode data with
    | .error _ => Step.stop
    | .ok text => return unifyLineEnds text

def readHeader : Option String → Step String
  | none => return Report.defaultHeader
  | some path => do return String.ofList (← readText path)

/-- How a report is filled: by the engine, or by the template for Markdown where none is chosen. -/
def loadTemplate (engine : Report.Engine) : Option String → Step (Report.Document → Report.Filling)
  | none => return fun d => .text (Report.standard.render d)
  | some path => do
    match engine (← get).disk path with
    | none => Step.stop
    | some fill => return fill

/-- What the report on a tree is filled to. -/
def fillReport (env : Environment σ) (o : Options) (tree : Tree) : Step Report.Filling := do
  let header ← readHeader o.header
  let fill ← loadTemplate env.engine o.template
  return fill (Report.document header env.today tree)

/-- Ends the command with a word on why there is no report. -/
def refuse {α : Type} (c : Console) (notice : String) : Step α := do
  Step.printError c ("[red]Error writing output:[/red] " ++ notice)
  Step.stop

/-- Writes a file, or ends the command with a word on why that is refused. -/
def writeFile (c : Console) (path : Path) (data : Bytes) : Step Unit := do
  match (← get).disk.write path data with
  | .ok disk => modify fun t => { t with disk }
  | .error refusal => refuse c (refusal.message path)

/-- Writes what a template was filled to. A file is emptied before its text is turned into bytes, so
that a text without bytes leaves it empty. -/
def writeReport (c : Console) (path : Path) : Report.Filling → Step Unit
  | .text s => writeFile c path (Utf8.encode s)
  | .torn => do
    writeFile c path []
    Step.stop
  | .failed (some notice) => refuse c notice
  | .failed none => Step.stop

/-- Writes a report. -/
def gen (env : Environment σ) (o : Options) (built : Except BuildError Tree) : Step Unit := do
  let tree ← treeOrStop env.console built
  summarize env.console tree
  let filling ← fillReport env o tree
  let path := Path.ofString o.output
  writeReport env.console path filling
  Step.print env.console ("[green]Generated:[/green] " ++ path.toString)

/-- Prints the tree of dependencies. -/
def printTree (c : Console) (built : Except BuildError Tree) : Step Unit := do
  let tree ← treeOrStop c built
  Step.echo tree.render

/-- Whether there is something at a path that an option names. -/
def isPresent (disk : Disk) (path : String) : Bool :=
  disk.exists? (Path.ofString path)

/-- Runs a command line. -/
def run (env : Environment σ) : Outcome σ :=
  let idle (code : Nat) : Outcome σ := ⟨code, "", "", env.disk, [], ⟨env.network, []⟩⟩
  match Request.ofArguments (isPresent env.disk) env.arguments with
  | .usage => idle 2
  | .help => idle 0
  | .run command o =>
    let (built, scene) := buildTree env o
    let step :=
      match command with
      | .gen => gen env o built
      | .tree => printTree env.console built
    let (ending, screen) := step.run.run ⟨[], [], env.disk⟩
    { exitCode := match ending with
        | .ok _ => 0
        | .error _ => 1
      out := String.ofList screen.out
      err := String.ofList screen.err
      disk := screen.disk
      log := scene.log.filter fun l => o.verbose || l.level == .warning
      wire := scene.world }

end Attribution.CommandLine

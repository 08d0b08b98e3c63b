import Attribution.Proofs.CommandLine.Step
import Attribution.Proofs.Disk
import Attribution.Proofs.Disk.Writing
import Attribution.Proofs.License.Classifier
import Attribution.Proofs.Report.Standard

/-!
The command that writes a report changes one file or none: a command line that fails leaves the disk
as it was, if its report has bytes, and one that succeeds leaves the whole report. The tree in it is
the one that the other command prints.
-/

namespace Attribution.CommandLine

open Text Step

variable {σ : Type} {env : Environment σ} {o : Options} {c : Command}

structure Options.SameBuild (o other : Options) : Prop where
  modfile : other.modfile = o.modfile
  depth : other.depth = o.depth
  lenient : other.lenient = o.lenient
  proxy : other.proxy = o.proxy
  threshold : other.threshold = o.threshold

/-- A build asks for nothing but what it is given for it. -/
theorem buildTree_congr {other : Options} (same : o.SameBuild other) (arguments : List String)
    (today : Report.Date) :
    buildTree { env with arguments, today } other = buildTree env o := by
  unfold buildTree settings
  simp only [same.modfile, same.depth, same.lenient, same.proxy, same.threshold]

/-- What a command does with what was built. -/
def stepOf (env : Environment σ) (c : Command) (o : Options)
    (built : Except BuildError Tree) : Step Unit :=
  match c with
  | .gen => gen env o built
  | .tree => printTree env.console built

/-- A command that was understood leaves what its step leaves, from an empty screen on. -/
theorem run_of_ended {ending : Except Unit Unit} {screen : Screen}
    (asked : Request.ofArguments (isPresent env.disk) env.arguments = .run c o) :
    (stepOf env c o (buildTree env o).1).on ⟨[], [], env.disk⟩ = (ending, screen) →
      (run env).exitCode = (match ending with | .ok () => 0 | .error () => 1) ∧
      (run env).disk = screen.disk ∧ (run env).out = String.ofList screen.out := by
  intro ended
  obtain ⟨rfl, rfl⟩ := Prod.ext_iff.mp ended
  unfold run
  rw [asked]
  cases c <;> exact ⟨rfl, rfl, rfl⟩

/-- A command line that asks for nothing to be written. -/
theorem disk_of_run (h : ∀ o, Request.ofArguments (isPresent env.disk) env.arguments ≠ .run .gen o) :
    (run env).disk = env.disk := by
  cases asked : Request.ofArguments (isPresent env.disk) env.arguments with
  | usage | help => unfold run; rw [asked]
  | run c o =>
      rcases ended : (stepOf env c o (buildTree env o).1).on ⟨[], [], env.disk⟩ with
        ⟨ending, screen⟩
      obtain ⟨-, disk, -⟩ := run_of_ended asked ended
      cases c with
      | gen => exact absurd asked (h o)
      | tree =>
          have keeps : (printTree env.console (buildTree env o).1).Keeps :=
            (keeps_treeOrStop _ _).bind fun _ _ => rfl
          exact disk.trans (keeps.disk ended)

/-- The report that a command line asks for has bytes, if it comes to be filled. The template for
Markdown sees to that. -/
def HasBytes (env : Environment σ) : Prop :=
  ∀ o, Request.ofArguments (isPresent env.disk) env.arguments = .run .gen o →
    ∀ tree, (buildTree env o).1 = .ok tree → fillingAt? env env.disk o tree ≠ some .torn

theorem disk_of_failed (notices : env.console.Notices)
    (plain : ∀ o, Request.ofArguments (isPresent env.disk) env.arguments = .run .gen o →
      '[' ∉ o.output.toList)
    (bytes : HasBytes env) (failed : (run env).exitCode ≠ 0) : (run env).disk = env.disk := by
  by_cases h : ∃ o, Request.ofArguments (isPresent env.disk) env.arguments = .run .gen o
  · obtain ⟨o, asked⟩ := h
    rcases ended : (stepOf env .gen o (buildTree env o).1).on ⟨[], [], env.disk⟩ with
      ⟨ending, screen⟩
    obtain ⟨code, disk, -⟩ := run_of_ended asked ended
    cases ending with
    | ok _ => exact absurd code failed
    | error e =>
        rw [disk, gen_onFailure notices (plain o asked) (s := ⟨[], [], env.disk⟩)
          (bytes o asked) ended]
  · exact disk_of_run fun o asked => h ⟨o, asked⟩

theorem out_of_tree (env : Environment σ) {t : Tree}
    (asked : Request.ofArguments (isPresent env.disk) env.arguments = .run .tree o)
    (built : (buildTree env o).1 = .ok t) :
    (run env).exitCode = 0 ∧ (run env).out = String.ofList (dropSequences t.render.toList) := by
  have ended : (stepOf env .tree o (buildTree env o).1).on ⟨[], [], env.disk⟩ =
      (.ok (), ⟨dropSequences t.render.toList, [], env.disk⟩) := by
    rw [built]
    rfl
  obtain ⟨code, -, out⟩ := run_of_ended asked ended
  exact ⟨code, out⟩

theorem dropSequences_of_plain {s : List Char} (h : '\x1b' ∉ s) : dropSequences s = s := by
  fun_induction dropSequences s with
  | case1 => rfl
  | case2 rest after found ih => exact absurd List.mem_cons_self h
  | case3 rest found ih => exact absurd List.mem_cons_self h
  | case4 c rest other ih => rw [ih (List.not_mem_of_not_mem_cons h)]

theorem fillingAt?_eq_some {d : Disk} {tree : Tree} {filling : Report.Filling}
    (filled : fillingAt? env d o tree = some filling) :
    ∃ header fill, headerAt? d o.header = some header ∧
      templateAt? env.engine d o.template = some fill ∧
      filling = fill (Report.document header env.today tree) := by
  obtain ⟨header, headed, rest⟩ := Option.bind_eq_some_iff.mp filled
  obtain ⟨fill, shaped, same⟩ := Option.map_eq_some_iff.mp rest
  exact ⟨header, fill, headed, shaped, same.symm⟩

theorem fillingAt?_ne_torn {d : Disk} {tree : Tree} (bundled : o.template = none) :
    fillingAt? env d o tree ≠ some .torn := by
  intro filled
  obtain ⟨header, fill, -, shaped, same⟩ := fillingAt?_eq_some filled
  rw [bundled] at shaped
  obtain rfl := Option.some.inj shaped
  cases same

/-- A report comes to be as a whole or not at all, on a terminal that can show the notice of it. A
command that fails leaves the disk as it was, unless the chosen template was filled to a text without
bytes. One that succeeds leaves the report on the tree that was built, made with the header and the
template that were chosen, in the encoding UTF-8. In the template for Markdown the tree stands between
fences as it is drawn, and the command for the tree prints the same but for what would steer a
terminal. -/
theorem report_of_run (env : Environment σ) (notices : env.console.Notices)
    (plain : ∀ o, Request.ofArguments (isPresent env.disk) env.arguments = .run .gen o →
      '[' ∉ o.output.toList) :
    (HasBytes env → (run env).exitCode ≠ 0 → (run env).disk = env.disk) ∧
    ((∀ o, Request.ofArguments (isPresent env.disk) env.arguments = .run .gen o →
      o.template = none) → HasBytes env) ∧
    ∀ o, Request.ofArguments (isPresent env.disk) env.arguments = .run .gen o →
      (run env).exitCode = 0 →
      ∃ tree header fill text,
        (buildTree env o).1 = .ok tree ∧
        headerAt? env.disk o.header = some header ∧
        templateAt? env.engine env.disk o.template = some fill ∧
        fill (Report.document header env.today tree) = .text text ∧
        (run env).disk.read (Path.ofString o.output) = .ok (Utf8.encode text) ∧
        (o.template = none →
          String.ofList text = Report.render Report.standard header env.today tree ∧
          ∃ rest, text = (Report.document header env.today tree).opening ++
            (tree.render.toList ++ ("```\n".toList ++ rest))) ∧
        ∀ arguments today other,
          Request.ofArguments (isPresent env.disk) arguments = .run .tree other →
          o.SameBuild other →
          (run { env with arguments, today }).exitCode = 0 ∧
          (run { env with arguments, today }).out =
            String.ofList (dropSequences tree.render.toList) ∧
          ('\x1b' ∉ tree.render.toList → (run { env with arguments, today }).out = tree.render) := by
  refine ⟨disk_of_failed notices plain,
    fun bundled o asked tree _ => fillingAt?_ne_torn (bundled o asked), fun o asked succeeded => ?_⟩
  rcases ended : (stepOf env .gen o (buildTree env o).1).on ⟨[], [], env.disk⟩ with
    ⟨ending, screen⟩
  obtain ⟨code, disk, -⟩ := run_of_ended asked ended
  obtain rfl : ending = .ok () := by
    cases ending with
    | ok _ => rfl
    | error _ => cases code.symm.trans succeeded
  obtain ⟨tree, text, built, filled, written⟩ := written_of_gen ended
  obtain ⟨header, fill, headed, shaped, same⟩ := fillingAt?_eq_some filled
  refine ⟨tree, header, fill, text, built, headed, shaped, same.symm, ?_, fun bundled => ?_, ?_⟩
  · rw [disk]
    exact Disk.read_of_write written
  · rw [bundled] at shaped
    obtain rfl := Option.some.inj shaped
    obtain rfl : text = Report.standard.render (Report.document header env.today tree) :=
      Report.Filling.text.inj same
    obtain ⟨rest, parts⟩ := Report.toList_render header env.today tree
    rw [Report.render, String.toList_ofList] at parts
    exact ⟨rfl, rest, parts⟩
  · intro arguments today other askedTree same
    have shown := out_of_tree { env with arguments, today } askedTree
      ((congrArg Prod.fst (buildTree_congr same arguments today)).trans built)
    refine ⟨shown.1, shown.2, fun escapeless => ?_⟩
    rw [shown.2, dropSequences_of_plain escapeless, String.ofList_toList]

/-- The manifest of a module whose name steers a terminal. -/
def colored : PlacedManifest := ⟨⟨⟨"m\x1b[31mx", ""⟩, [], []⟩, some (Path.absolute [])⟩

/-- A template that shows half a character. -/
def halved : Bytes := Bytes.ofString "\x7b\x7b \"\\ud800\" \x7d\x7d"

def coloredDisk : Disk where
  home := []
  items := [(["go.mod"], .file (Bytes.ofString "module m\x1b[31mx\n")),
    (["half.j2"], .file halved), (["a.md"], .file (Bytes.ofString "old"))]

def coloredTree : Tree := ⟨⟨⟨"m\x1b[31mx", ""⟩, none, none, [], .root⟩⟩

/-- Fills the template that shows half a character, and knows no other. -/
def halvedEngine : Report.Engine := fun d path =>
  match d.read (Path.ofString path) with
  | .ok data => if data = halved then some fun _ => .torn else none
  | .error _ => none

/-- A command line where there are the manifest of that module, that template and an old report on the
disk, and no download works. -/
def coloredLine (arguments : List String) : Environment Unit where
  arguments
  proxySetting := none
  today := ⟨2024, 1, 1⟩
  disk := coloredDisk
  transport := fun _ _ => (.failed "", ())
  network := ()
  reader := License.bareReader
  engine := halvedEngine
  console := Console.plain

def coloredGen : List String := ["gen", "-m", "/go.mod", "-o", "/a.md", "-d", "0"]

def halvedGen : List String := ["gen", "-m", "/go.mod", "-o", "/a.md", "-d", "0", "-t", "/half.j2"]

def coloredPrint : List String := ["tree", "-m", "/go.mod", "-d", "0"]

def coloredOptions (template : Option String) : Options where
  modfile := "/go.mod"
  output := "/a.md"
  depth := 0
  lenient := false
  proxy := none
  threshold := License.Threshold.default.given
  header := none
  template
  verbose := false

theorem asked_colored :
    Request.ofArguments (isPresent coloredDisk) coloredGen = .run .gen (coloredOptions none) := rfl

theorem ofString_half : Path.ofString "/half.j2" = Path.absolute ["half.j2"] := by decide

theorem ofString_report : Path.ofString "/a.md" = Path.absolute ["a.md"] := by decide

def halvedGiven : Given :=
  ⟨[(.modfile, "/go.mod"), (.output, "/a.md"), (.depth, "0"), (.template, "/half.j2")], 0⟩

theorem asked_halved : Request.ofArguments (isPresent coloredDisk) halvedGen =
    .run .gen (coloredOptions (some "/half.j2")) := by
  have present : isPresent coloredDisk "/half.j2" = true := by
    rw [isPresent, ofString_half]
    exact Disk.exists_of_plain (by decide)
  have given : Request.ofArguments (isPresent coloredDisk) halvedGen =
      halvedGiven.request .gen (isPresent coloredDisk) := rfl
  have names : (halvedGiven.value? .header).toList ++ (halvedGiven.value? .template).toList =
      ["/half.j2"] := rfl
  have all : ["/half.j2"].all (isPresent coloredDisk) = true := by
    rw [List.all_cons, present]
    rfl
  rw [given]
  simp only [Given.request, names, all]
  rfl

theorem askedTree_colored : Request.ofArguments (isPresent coloredDisk) coloredPrint =
    .run .tree { coloredOptions none with output := "ATTRIBUTION.md" } := rfl

theorem notices_plain : Console.plain.Notices := fun _ _ => rfl

theorem scan_colored (s : Scene (Download.Wire Unit)) :
    ((Content.scan coloredDisk (Path.ofString "/go.mod")).run.run s).1 = .ok colored := by
  have path : Path.ofString "/go.mod" = Path.absolute ["go.mod"] := by decide
  have plain : coloredDisk.plain ["go.mod"] = true := by decide
  have found : coloredDisk.item? ["go.mod"] = some (.file (Bytes.ofString "module m\x1b[31mx\n")) := by
    decide
  have parsed : GoMod.parse (Bytes.ofString "module m\x1b[31mx\n") = .ok colored.manifest := by
    have parsed : (GoMod.parse (Bytes.ofString "module m\x1b[31mx\n")).toOption =
        some colored.manifest := by decide +kernel
    cases h : GoMod.parse (Bytes.ofString "module m\x1b[31mx\n") with
    | error fault => rw [h] at parsed; cases parsed
    | ok m => rw [h] at parsed; rw [Option.some.inj parsed]
  rw [path, Content.scan, Disk.isFile_of_plain plain found, Disk.read_of_plain plain found,
    Disk.resolve_of_plain plain]
  simp only
  rw [Content.readManifest, parsed]
  rfl

theorem buildTree_colored (arguments : List String) (template : Option String) :
    (buildTree (coloredLine arguments) (coloredOptions template)).1 = .ok coloredTree := by
  have supported : Content.isSupported (Path.ofString "/go.mod") = true := by decide
  have scanned := scan_colored ⟨⟨(), []⟩, []⟩
  generalize start : (⟨⟨(), []⟩, []⟩ : Scene (Download.Wire Unit)) = s at scanned
  have threshold : ∃ t, License.Threshold.of? License.Threshold.default.given = some t := by
    rw [← Option.isSome_iff_exists]
    decide +kernel
  obtain ⟨t, threshold⟩ := threshold
  unfold buildTree
  simp only [coloredOptions, supported, Bool.not_true, Bool.false_eq_true, if_false, threshold]
  rcases h : (Content.scan coloredDisk (Path.ofString "/go.mod")).run.run s with ⟨r, scene⟩
  rw [h] at scanned
  obtain rfl : r = .ok colored := scanned
  simp only [coloredLine, start, h]
  rfl

theorem write_colored (data : Bytes) : coloredDisk.write (Path.ofString "/a.md") data =
    .ok (coloredDisk.put ["a.md"] (.file data)) := by
  have found : coloredDisk.item? ["a.md"] = some (.file (Bytes.ofString "old")) := by decide
  rw [ofString_report]
  exact Disk.write_of_plain (by decide) found data

theorem summarize_colored : (summarize Console.plain coloredTree).Succeeds :=
  summarize_succeeds rfl (by decide +kernel)

/-- There the report is written, and the terminal is steered from within it. -/
theorem gen_colored : ∃ t, (stepOf (coloredLine coloredGen) .gen (coloredOptions none)
    (buildTree (coloredLine coloredGen) (coloredOptions none)).1).on ⟨[], [], coloredDisk⟩ =
      (.ok (), t) := by
  rw [buildTree_colored]
  exact gen_succeeds notices_plain (by decide) summarize_colored rfl (write_colored _)

theorem exitCode_colored : (run (coloredLine coloredGen)).exitCode = 0 := by
  obtain ⟨t, ended⟩ := gen_colored
  exact (run_of_ended asked_colored ended).1

theorem plain_colored : ∀ o, Request.ofArguments (isPresent coloredDisk) coloredGen = .run .gen o →
    '[' ∉ o.output.toList := by
  intro o asked
  obtain rfl : coloredOptions none = o := by cases asked_colored.symm.trans asked; rfl
  decide

theorem report_of_run_colored :
    Console.plain.Notices ∧ (run (coloredLine coloredGen)).exitCode = 0 ∧
    ∃ text,
      (run (coloredLine coloredGen)).disk.read (Path.ofString "/a.md") = .ok (Utf8.encode text) ∧
      String.ofList text =
        Report.render Report.standard Report.defaultHeader ⟨2024, 1, 1⟩ coloredTree ∧
      (run (coloredLine coloredPrint)).out =
        String.ofList (dropSequences coloredTree.render.toList) := by
  obtain ⟨tree, header, fill, text, built, headed, -, -, written, bundled, printed⟩ :=
    (report_of_run (coloredLine coloredGen) notices_plain plain_colored).2.2 (coloredOptions none)
      asked_colored exitCode_colored
  obtain rfl : coloredTree = tree := by
    cases (buildTree_colored coloredGen none).symm.trans built; rfl
  obtain rfl : Report.defaultHeader = header := Option.some.inj headed
  exact ⟨notices_plain, exitCode_colored, text, written, (bundled rfl).1,
    (printed coloredPrint ⟨2024, 1, 1⟩ _ askedTree_colored ⟨rfl, rfl, rfl, rfl, rfl⟩).2.1⟩

theorem filling_halved : fillingAt? (coloredLine halvedGen) coloredDisk
    (coloredOptions (some "/half.j2")) coloredTree = some .torn := by
  have there : coloredDisk.read (Path.ofString "/half.j2") = .ok halved := by
    rw [ofString_half]
    exact Disk.read_of_plain (by decide) (by decide)
  have loaded : halvedEngine coloredDisk "/half.j2" = some fun _ => .torn := by
    rw [halvedEngine, there]
    exact if_pos rfl
  have shaped : templateAt? (coloredLine halvedGen).engine coloredDisk
      (coloredOptions (some "/half.j2")).template = some fun _ => .torn := loaded
  have headed : headerAt? coloredDisk (coloredOptions (some "/half.j2")).header =
      some Report.defaultHeader := rfl
  rw [fillingAt?, headed, shaped]
  rfl

/-- With the template that shows half a character, the report that was there is emptied. -/
theorem gen_halved : ∃ t, (stepOf (coloredLine halvedGen) .gen (coloredOptions (some "/half.j2"))
    (buildTree (coloredLine halvedGen) (coloredOptions (some "/half.j2"))).1).on
      ⟨[], [], coloredDisk⟩ = (.error (), t) ∧ t.disk = coloredDisk.put ["a.md"] (.file []) := by
  rw [buildTree_colored]
  exact gen_torn (s := ⟨[], [], coloredDisk⟩) summarize_colored filling_halved (write_colored [])

/-- The tree that is printed there is not the one that the report holds; and a report without bytes
fails, but leaves nothing of the one that was there. -/
theorem colored_discolored :
    ((∃ rest, (run (coloredLine coloredGen)).disk.read (Path.ofString "/a.md") =
        .ok (Utf8.encode
          ((Report.document Report.defaultHeader ⟨2024, 1, 1⟩ coloredTree).opening ++
            (coloredTree.render.toList ++ ("```\n".toList ++ rest))))) ∧
      (run (coloredLine coloredPrint)).exitCode = 0 ∧
      (run (coloredLine coloredPrint)).out ≠ coloredTree.render) ∧
    coloredDisk.read (Path.ofString "/a.md") = .ok (Bytes.ofString "old") ∧
    (run (coloredLine halvedGen)).exitCode = 1 ∧
    (run (coloredLine halvedGen)).disk.read (Path.ofString "/a.md") = .ok [] := by
  have shown := out_of_tree (coloredLine coloredPrint) askedTree_colored
    (buildTree_colored coloredPrint none)
  refine ⟨⟨?_, shown.1, ?_⟩, ?_, ?_⟩
  · obtain ⟨t, ended⟩ := gen_colored
    obtain ⟨-, disk, -⟩ := run_of_ended asked_colored ended
    obtain ⟨tree, text, built, filled, written⟩ := written_of_gen ended
    obtain rfl : coloredTree = tree := by
      cases (buildTree_colored coloredGen none).symm.trans built; rfl
    obtain rfl := Report.Filling.text.inj (Option.some.inj filled)
    obtain ⟨rest, parts⟩ := Report.toList_render Report.defaultHeader ⟨2024, 1, 1⟩ coloredTree
    rw [Report.render, String.toList_ofList] at parts
    refine ⟨rest, ?_⟩
    rw [← parts, disk]
    exact Disk.read_of_write written
  · rw [shown.2]
    decide +kernel
  · rw [ofString_report]
    exact Disk.read_of_plain (by decide) (by decide)
  · obtain ⟨t, ended, emptied⟩ := gen_halved
    obtain ⟨code, disk, -⟩ := run_of_ended asked_halved ended
    refine ⟨code, ?_⟩
    rw [disk, emptied]
    exact Disk.read_of_write (write_colored [])

end Attribution.CommandLine

import Attribution.Content
import Attribution.Proofs.Disk

/-!
What is found for a requirement, as a function of the disk and of what the downloads come to. The log
is written and never read, so a search comes to the same wherever it starts. Only a directory
replacement makes it depend on the manifest that declares the requirement.
-/

namespace Attribution

variable {σ τ α β : Type}

namespace Run

/-- Two operations come to the same, wherever they start. -/
def Alike (x : Run σ α) (y : Run τ α) : Prop := ∀ s t, (x.run.run s).1 = (y.run.run t).1

theorem alike_pure (a : α) : Alike (pure a : Run σ α) (pure a : Run τ α) := fun _ _ => rfl

theorem alike_throw (f : Failure) : Alike (throw f : Run σ α) (throw f : Run τ α) := fun _ _ => rfl

theorem alike_fail (kind : Problem.Kind) (message : Option String) (module : Option ModuleVersion) :
    Alike (fail kind message module : Run σ α) (fail kind message module : Run τ α) :=
  fun _ _ => rfl

theorem alike_debug (text : String) : Alike (debug text : Run σ Unit) (debug text : Run τ Unit) :=
  fun _ _ => rfl

theorem Alike.bind {x : Run σ α} {y : Run τ α} {f : α → Run σ β} {g : α → Run τ β}
    (first : Alike x y) (next : ∀ a, Alike (f a) (g a)) : Alike (x >>= f) (y >>= g) := by
  intro s t
  have same := first s t
  simp only [ExceptT.run_bind, StateT.run_bind]
  rcases hx : x.run.run s with ⟨_ | a, s'⟩ <;> rcases hy : y.run.run t with ⟨_ | b, t'⟩ <;>
    rw [hx, hy] at same <;> cases same
  · rfl
  · exact next a s' t'

end Run

namespace Content

open Run

theorem alike_readManifest (data : Bytes) (directory : Option Path) :
    Alike (readManifest data directory : Run σ PlacedManifest)
      (readManifest data directory : Run τ PlacedManifest) := by
  unfold readManifest
  cases GoMod.parse data with
  | error fault => exact alike_fail _ _ _
  | ok m => exact (alike_debug _).bind fun _ => alike_pure _

theorem alike_ofDirectory (disk : Disk) (directory : Path) :
    Alike (ofDirectory disk directory : Run σ Content)
      (ofDirectory disk directory : Run τ Content) := by
  refine (alike_debug _).bind fun _ => ?_
  cases disk.list directory with
  | error refusal => exact alike_fail _ _ _
  | ok names =>
      simp only
      cases filesIn disk directory names with
      | error fault => exact alike_throw _
      | ok files =>
          simp only
          cases files.find? fun f => f.1 == GoMod.fileName with
          | none => exact (alike_debug _).bind fun _ => alike_pure _
          | some file => exact (alike_readManifest _ _).bind fun _ => alike_pure _

theorem alike_ofPayload (v : ModuleVersion) (payload : Payload) :
    Alike (ofPayload v payload : Run σ Content) (ofPayload v payload : Run τ Content) := by
  unfold ofPayload
  cases payload.entries? with
  | none => exact alike_fail _ _ _
  | some entries =>
      simp only
      cases Archive.pick (Archive.starts v) ⟨none, none⟩ entries with
      | error fault => exact alike_throw _
      | ok pick =>
          obtain ⟨license, manifest⟩ := pick
          cases manifest with
          | none =>
              have leaf (text) : Alike (debug text >>= fun _ => pure ⟨none, license⟩ : Run σ Content)
                  (debug text >>= fun _ => pure ⟨none, license⟩ : Run τ Content) :=
                (alike_debug _).bind fun _ => alike_pure _
              cases license with
              | none => exact (alike_debug _).bind fun _ => leaf _
              | some text => exact leaf _
          | some data =>
              have read : Alike (readManifest data none >>= fun m => pure ⟨some m, license⟩ :
                  Run σ Content) (readManifest data none >>= fun m => pure ⟨some m, license⟩ :
                  Run τ Content) := (alike_readManifest _ _).bind fun _ => alike_pure _
              cases license with
              | none => exact (alike_debug _).bind fun _ => read
              | some text => exact read

/-- A search comes to the same if the downloads do. -/
theorem alike_resolve (disk : Disk) {fetch : ModuleVersion → Run σ Payload}
    {fetch' : ModuleVersion → Run τ Payload} (same : ∀ v, Alike (fetch v) (fetch' v))
    (parent : PlacedManifest) (r : Requirement) :
    Alike (resolve disk fetch parent r) (resolve disk fetch' parent r) := by
  have published (v : ModuleVersion) : Alike (remote fetch v) (remote fetch' v) :=
    (alike_debug _).bind fun _ => (same v).bind fun payload => alike_ofPayload v payload
  unfold resolve
  cases r.replacement with
  | none => exact published r.version
  | some replacement =>
      cases replacement with
      | module v => exact published v
      | directory path =>
          simp only [inDirectory]
          cases parent.directory with
          | none => exact alike_fail _ _ _
          | some base =>
              simp only
              cases disk.resolve (base ++ Path.ofString path) with
              | error e => exact alike_throw _
              | ok directory => exact alike_ofDirectory disk directory

/-- What is found for a requirement that the manifest declares, when every download of a version
comes to the same. -/
def found (disk : Disk) (payload : ModuleVersion → Except Failure Payload)
    (parent : PlacedManifest) (r : Requirement) : Except Failure Content :=
  ((resolve disk (fun v => ExceptT.mk (pure (payload v))) parent r).run.run
    (⟨(), []⟩ : Scene Unit)).1

/-- The license text that is found. -/
def text (disk : Disk) (payload : ModuleVersion → Except Failure Payload) (parent : PlacedManifest)
    (r : Requirement) : Option Bytes := (found disk payload parent r).toOption.bind (·.license)

theorem run_resolve {disk : Disk} {fetch : ModuleVersion → Run σ Payload}
    {payload : ModuleVersion → Except Failure Payload}
    (fixed : ∀ v scene, ((fetch v).run.run scene).1 = payload v) (parent : PlacedManifest)
    (r : Requirement) (scene : Scene σ) :
    ((resolve disk fetch parent r).run.run scene).1 = found disk payload parent r :=
  alike_resolve disk (fun v s _ => fixed v s) parent r scene _

/-- Where the directory lies that a manifest declares as a replacement. -/
def located (disk : Disk) (parent : PlacedManifest) (path : String) :
    Option (Except Disk.DeadEnd Path) :=
  parent.directory.map fun base => disk.resolve (base ++ Path.ofString path)

/-- The same is found for a requirement whichever manifest declares it, unless it is replaced by a
directory that lies elsewhere for the one than for the other. -/
theorem found_congr {disk : Disk} {payload : ModuleVersion → Except Failure Payload}
    {p q : PlacedManifest} {r : Requirement}
    (same : ∀ path, r.replacement = some (.directory path) →
      located disk p path = located disk q path) :
    found disk payload p r = found disk payload q r := by
  unfold found resolve
  cases h : r.replacement with
  | none => rfl
  | some replacement =>
      cases replacement with
      | module v => rfl
      | directory path =>
          have place := same path h
          unfold located at place
          simp only [inDirectory]
          cases hp : p.directory with
          | none =>
              rw [hp] at place
              rw [Option.map_eq_none_iff.mp place.symm]
          | some base =>
              rw [hp] at place
              obtain ⟨base', hq, place⟩ := Option.map_eq_some_iff.mp place.symm
              rw [hq]
              simp only [place]

section
variable {disk : Disk} {directory : Path} {names rest : List String} {name : String} {data : Bytes}

theorem filesIn_file (plain : disk.plain (names ++ [name]) = true)
    (found : disk.item? (names ++ [name]) = some (.file data)) :
    filesIn disk (Path.absolute names) (name :: rest) =
      (filesIn disk (Path.absolute names) rest).map ((name, data) :: ·) := by
  have file : disk.isFile (Path.absolute names ++ (⟨"", [name]⟩ : Path)) = .ok true :=
    disk.isFile_of_plain plain found
  have read : disk.read (Path.absolute names ++ (⟨"", [name]⟩ : Path)) = .ok data :=
    disk.read_of_plain plain found
  simp only [filesIn, file, read]

theorem filesIn_directory (plain : disk.plain (names ++ [name]) = true)
    (found : disk.item? (names ++ [name]) = some .directory) :
    filesIn disk (Path.absolute names) (name :: rest) = filesIn disk (Path.absolute names) rest := by
  have file : disk.isFile (Path.absolute names ++ (⟨"", [name]⟩ : Path)) = .ok false :=
    disk.isFile_of_plain plain found
  simp only [filesIn, file]

/-- The content of a directory, by the files in it. -/
def ofFiles (directory : Path) (files : List (String × Bytes)) : Run σ Content := do
  Run.debug ("Looking at " ++ directory.toString)
  let license := (files.find? fun f => isLicenseName f.1).map (·.2)
  match files.find? fun f => f.1 == GoMod.fileName with
  | none =>
    Run.debug ("No go.mod in " ++ directory.toString ++ ", treating it as a leaf")
    return ⟨none, license⟩
  | some (_, data) =>
    let manifest ← readManifest data (some directory)
    return ⟨some manifest, license⟩

/-- A directory that stands for itself is read file by file, in order. -/
theorem inDirectory_of_plain {parent : PlacedManifest} {path : String} {base : Path}
    {files : List (String × Bytes)} (lies : parent.directory = some base)
    (spelled : base ++ Path.ofString path = Path.absolute names) (plain : disk.plain names = true)
    (found : disk.item? names = some .directory)
    (sorted : (disk.namesBelow names).Pairwise fun a b => decide (¬ b < a) = true)
    (held : filesIn disk (Path.absolute names) (disk.namesBelow names) = .ok files) :
    (inDirectory disk parent path : Run σ Content) = ofFiles (Path.absolute names) files := by
  simp only [inDirectory, lies, spelled, disk.resolve_of_plain plain, ofDirectory,
    disk.list_of_plain plain found sorted, held]
  rfl

end

end Content

end Attribution

import Attribution.Proofs.Content.Selection
import Attribution.Proofs.Disk.Holding
import Mathlib.Data.List.Find

/-!
A module in a directory and the same module in an archive. Where both hold the same files, the same
license text and the same manifest are found in them; only the directory of the manifest differs.
-/

namespace Attribution

variable {σ : Type}

/-- The file of a module as it stands in the module's archive. -/
def Entry.ofFile (v : ModuleVersion) (f : String × Bytes) : Entry :=
  ⟨v.text ++ "/" ++ f.1, f.2, true⟩

/-- Directly in the module an archive holds these files, in this order. What lies deeper or
elsewhere may stand anywhere. -/
structure Archive.Holds (v : ModuleVersion) (entries : List Entry) (files : List (String × Bytes)) :
    Prop where
  named : ∀ e ∈ entries, e.name ≠ ""
  top : (entries.filter fun e => e.IsTop v) = files.map (Entry.ofFile v)

section

variable {v : ModuleVersion} {f : String × Bytes} {files : List (String × Bytes)}
  {entries : List Entry} {e : Entry}

theorem Entry.ofFile_goesOn : (Entry.ofFile v f).GoesOn v ('/' :: f.1.toList) :=
  ⟨v.text.toList, .inl rfl, by simp [Entry.ofFile]⟩

theorem Entry.IsTop.isDirectory (top : e.IsTop v) : e.isDirectory = false := by
  obtain ⟨file, named, flat, start, -, whole⟩ := top
  have last : e.name.toList.getLast? = file.getLast? := by
    rw [whole, List.getLast?_append, List.getLast?_cons, Option.some_or]
    cases file with
    | nil => exact absurd rfl named
    | cons c rest => simp [List.getLast?_cons]
  rw [Entry.isDirectory, last, beq_eq_false_iff_ne]
  exact fun slash => flat (List.mem_of_getLast? slash)

theorem Entry.isLicense_ofFile (top : (Entry.ofFile v f).IsTop v) :
    (Entry.ofFile v f).IsLicense v ↔ isLicenseName f.1 = true := by
  obtain ⟨file, named, flat, there⟩ := top
  obtain rfl : f.1.toList = file := (List.cons.inj (Entry.ofFile_goesOn.unique there)).2
  rw [isLicenseName, List.contains_iff_mem]
  refine ⟨?_, fun license => ?_⟩
  · rintro ⟨-, file, -, license, here⟩
    rw [(List.cons.inj (here.unique there)).2] at license
    simpa using license
  · exact ⟨Entry.IsTop.isDirectory ⟨_, named, flat, there⟩, _, flat, by simpa using license, there⟩

theorem Entry.isManifest_ofFile (top : (Entry.ofFile v f).IsTop v) :
    (Entry.ofFile v f).IsManifest v ↔ (f.1 == GoMod.fileName) = true := by
  rw [beq_iff_eq]
  refine ⟨fun ⟨_, here⟩ => ?_, fun named => ⟨top.isDirectory, ?_⟩⟩
  · exact String.toList_inj.mp (List.cons.inj (Entry.ofFile_goesOn.unique here)).2
  · have here : (Entry.ofFile v f).GoesOn v ('/' :: f.1.toList) := Entry.ofFile_goesOn
    rw [named] at here
    exact here

/-- A file that is sought directly in the module is sought among the files. -/
theorem Archive.Holds.find?_eq (packed : Archive.Holds v entries files) {kind : Entry → Prop}
    [DecidablePred kind] {test : String × Bytes → Bool} (top : ∀ e, kind e → e.IsTop v)
    (same : ∀ f, (Entry.ofFile v f).IsTop v → (kind (Entry.ofFile v f) ↔ test f = true)) :
    (entries.find? fun e => kind e) = (files.find? test).map (Entry.ofFile v) := by
  have all : (entries.find? fun e => kind e) =
      (entries.filter fun e => e.IsTop v).find? fun e => kind e := by
    rw [List.find?_filter]
    refine List.find?_congr fun e _ => ?_
    simpa using top e
  rw [all, packed.top, List.find?_map]
  refine congrArg _ (List.find?_congr fun f mem => ?_)
  have member : Entry.ofFile v f ∈ entries.filter fun e => e.IsTop v :=
    packed.top ▸ List.mem_map_of_mem mem
  have lies : (Entry.ofFile v f).IsTop v := by simpa using (List.mem_filter.mp member).2
  rw [Bool.eq_iff_iff, Function.comp_apply, decide_eq_true_iff]
  exact same f lies

end

namespace Content

section

variable {disk : Disk} {directory : Path} {names : List String} {files : List (String × Bytes)}

/-- Of some of the names those are read that belong to files. -/
theorem exists_filesIn (holds : disk.Holds directory names files) (some : List String)
    (sub : some ⊆ names) : ∃ found, filesIn disk directory some = .ok found ∧
      (∀ f, f ∈ found ↔ f ∈ files ∧ f.1 ∈ some) ∧ (found.map (·.1)).Sublist some := by
  induction some with
  | nil => exact ⟨[], rfl, by simp, List.nil_sublist _⟩
  | cons name rest ih =>
      obtain ⟨found, read, members, below⟩ := ih (List.subset_of_cons_subset sub)
      by_cases file : ∃ f ∈ files, f.1 = name
      · obtain ⟨f, mem, rfl⟩ := file
        obtain ⟨-, isFile, data⟩ := holds.file f mem
        have only (g) (other : g ∈ files) (same : g.1 = f.1) : g = f := by
          obtain ⟨-, -, data'⟩ := holds.file g other
          rw [same, data] at data'
          exact Prod.ext same (Except.ok.inj data').symm
        refine ⟨f :: found, ?_, fun g => ?_, below.cons_cons f.1⟩
        · simp only [filesIn, isFile, data, read]
          rfl
        · rw [List.mem_cons, List.mem_cons, members]
          refine ⟨?_, fun ⟨other, named⟩ => named.imp (only g other) (⟨other, ·⟩)⟩
          rintro (rfl | ⟨other, named⟩)
          · exact ⟨mem, .inl rfl⟩
          · exact ⟨other, .inr named⟩
      · have none (f) (mem : f ∈ files) : f.1 ≠ name := fun same => file ⟨f, mem, same⟩
        have isFile := holds.other name (sub List.mem_cons_self) none
        refine ⟨found, ?_, fun g => ?_, below.cons name⟩
        · simp only [filesIn, isFile, read]
        · rw [members, List.mem_cons]
          exact and_congr_right fun mem => (or_iff_right (none g mem)).symm

theorem filesIn_of_holds (holds : disk.Holds directory names files)
    (ascending : files.Pairwise fun f g => f.1 < g.1) :
    filesIn disk directory names = .ok files := by
  obtain ⟨found, read, members, below⟩ := exists_filesIn holds names (List.Subset.refl _)
  have same (f) : f ∈ found ↔ f ∈ files :=
    (members f).trans (and_iff_left_of_imp fun mem => (holds.file f mem).1)
  have sorted : found.Pairwise fun f g => f.1 < g.1 :=
    List.pairwise_map.mp ((Disk.ascending_of_list holds.listed).sublist below)
  have once {l : List (String × Bytes)} (ascends : l.Pairwise fun f g => f.1 < g.1) : l.Nodup := by
    refine List.Pairwise.imp ?_ ascends
    rintro f _ less rfl
    exact String.lt_irrefl f.1 less
  have perm : found.Perm files :=
    (List.perm_ext_iff_of_nodup (once sorted) (once ascending)).mpr same
  rw [read, perm.eq_of_pairwise (fun _ _ _ _ less greater => absurd greater (String.lt_asymm less))
    sorted ascending]

theorem outcome_ofDirectory (holds : disk.Holds directory names files)
    (ascending : files.Pairwise fun f g => f.1 < g.1) (scene : Scene σ) :
    ((ofDirectory disk directory).run.run scene).1 =
      ofTexts (some directory) ((files.find? fun f => isLicenseName f.1).map (·.2))
        ((files.find? fun f => f.1 == GoMod.fileName).map (·.2)) := by
  unfold ofDirectory
  simp only [holds.listed, filesIn_of_holds holds ascending]
  generalize (files.find? fun f => isLicenseName f.1).map (·.2) = license
  cases files.find? fun f => f.1 == GoMod.fileName with
  | none => rfl
  | some f =>
      exact outcome_readManifest f.2 (some directory) license ⟨scene.world, scene.log ++ [_]⟩

end

section

variable {v : ModuleVersion} {files : List (String × Bytes)} {entries : List Entry}

theorem license?_of_holds (packed : Archive.Holds v entries files) :
    Archive.license? v entries = (files.find? fun f => isLicenseName f.1).map (Entry.ofFile v) :=
  packed.find?_eq (fun _ => Entry.IsLicense.isTop) fun _ => Entry.isLicense_ofFile

theorem manifest?_of_holds (packed : Archive.Holds v entries files) :
    Archive.manifest? v entries =
      (files.find? fun f => f.1 == GoMod.fileName).map (Entry.ofFile v) :=
  packed.find?_eq (fun _ => Entry.IsManifest.isTop) fun _ => Entry.isManifest_ofFile

theorem outcome_ofPayload_of_holds {payload : Payload} (opened : payload.entries? = some entries)
    (packed : Archive.Holds v entries files) (scene : Scene σ) :
    ((ofPayload v payload).run.run scene).1 =
      ofTexts none ((files.find? fun f => isLicenseName f.1).map (·.2))
        ((files.find? fun f => f.1 == GoMod.fileName).map (·.2)) := by
  have whole {file : Option (String × Bytes)} {e : Entry}
      (stands : file.map (Entry.ofFile v) = some e) : e.intact = true := by
    obtain ⟨f, -, rfl⟩ := Option.map_eq_some_iff.mp stands
    rfl
  have picked := Archive.pick_of_whole packed.named
    (fun e first => whole ((license?_of_holds packed).symm.trans first))
    (fun e first => whole ((manifest?_of_holds packed).symm.trans first))
  rw [license?_of_holds packed, manifest?_of_holds packed, Option.map_map, Option.map_map] at picked
  exact outcome_ofPayload opened picked scene

end

/-- The content with its manifest put into a directory. -/
def placedIn (directory : Path) (c : Content) : Content :=
  { c with manifest := c.manifest.map fun m => { m with directory := some directory } }

theorem ofTexts_directory (directory : Path) (license manifest : Option Bytes) :
    ofTexts (some directory) license manifest =
      (ofTexts none license manifest).map (placedIn directory) := by
  unfold ofTexts
  cases manifest with
  | none => rfl
  | some data => cases parsed : GoMod.parse data <;> simp only [parsed] <;> rfl

/-- A module in a directory, and the same one in an archive that has the directory's files in
ascending order of their names: both are searched to the same end, which is the first license among
the files and what the manifest says, if it can be read. They differ in where the manifest lies. -/
theorem agreed_of_resolve (disk : Disk) {fetch : ModuleVersion → Run σ Payload}
    {parent parent' : PlacedManifest} {r r' : Requirement} {path : String} {base directory : Path}
    {names : List String} {files : List (String × Bytes)} {v : ModuleVersion} {payload : Payload}
    {entries : List Entry} {scene scene' : Scene σ} (start : Scene σ)
    (replaced : r.replacement = some (.directory path)) (lies : parent.directory = some base)
    (leads : disk.resolve (base ++ Path.ofString path) = .ok directory)
    (held : disk.Holds directory names files) (ascending : files.Pairwise fun f g => f.1 < g.1)
    (published : r'.published? = some v)
    (fetched : (fetch v).run.run (scene.asked v) = (.ok payload, scene'))
    (opened : payload.entries? = some entries) (packed : Archive.Holds v entries files) :
    let here := ((resolve disk fetch parent r).run.run start).1
    let there := ((resolve disk fetch parent' r').run.run scene).1
    here = there.map (placedIn directory) ∧
      there = ofTexts none ((files.find? fun f => isLicenseName f.1).map (·.2))
        ((files.find? fun f => f.1 == GoMod.fileName).map (·.2)) := by
  intro here there
  have remote : there = ofTexts none ((files.find? fun f => isLicenseName f.1).map (·.2))
      ((files.find? fun f => f.1 == GoMod.fileName).map (·.2)) := by
    change ((resolve disk fetch parent' r').run.run scene).1 = _
    rw [resolve_published published, run_remote fetched]
    exact outcome_ofPayload_of_holds opened packed scene'
  refine ⟨?_, remote⟩
  have dispatched : resolve disk fetch parent r = ofDirectory disk directory := by
    simp only [resolve, replaced, inDirectory, lies, leads]
  change ((resolve disk fetch parent r).run.run start).1 = _
  rw [remote, ← ofTexts_directory, dispatched]
  exact outcome_ofDirectory held ascending start

/-- A tree with two licenses and a manifest in a directory, and a directory there that is named like
a license. -/
def shelf : Disk where
  home := []
  items := [(["w", "go.mod"], .file (Bytes.ofString "module m")), (["w", "LICENSE"], .file [76]),
    (["w", "COPYING"], .file [67]), (["w", "license.md", "x"], .file [])]

/-- The files of the directory, in ascending order. -/
def shelved : List (String × Bytes) :=
  [("COPYING", [67]), ("LICENSE", [76]), ("go.mod", Bytes.ofString "module m")]

theorem shelf_holds : shelf.Holds (Path.absolute ["w"])
    ((shelf.namesBelow ["w"]).mergeSort fun a b => decide (¬ b < a)) shelved := by
  refine Disk.holds_of_plain (by decide +kernel) (by decide +kernel) (by decide +kernel) ?_
  intro name data
  by_cases copying : name = "COPYING"
  · subst copying
    simp [shelved, shelf, Disk.item?, eq_comm]
  by_cases license : name = "LICENSE"
  · subst license
    simp [shelved, shelf, Disk.item?, eq_comm]
  by_cases manifest : name = "go.mod"
  · subst manifest
    simp [shelved, shelf, Disk.item?, eq_comm]
  simp [shelved, shelf, Disk.item?, copying, license, manifest, Ne.symm copying, Ne.symm license,
    Ne.symm manifest]

/-- An archive with the same files, and licenses that lie deeper. -/
theorem agreed_of_resolve_shelved :
    let entries : List Entry := [⟨"m@v1/sub/LICENSE", [1], false⟩, ⟨"m@v1/COPYING", [67], true⟩,
      ⟨"m@v1/LICENSE", [76], true⟩, ⟨"m@v1/license.md/x", [], true⟩,
      ⟨"m@v1/go.mod", Bytes.ofString "module m", true⟩]
    let parent : PlacedManifest := ⟨⟨⟨"n", ""⟩, [], []⟩, some ⟨"/", []⟩⟩
    let find (r : Requirement) : Except Failure Content :=
      ((resolve shelf (fun _ => return .archive entries) parent r : Run Unit Content).run.run
        ⟨(), []⟩).1
    let m : Manifest := ⟨⟨"m", ""⟩, [], []⟩
    find ⟨⟨"m", "v1"⟩, none⟩ = .ok ⟨some ⟨m, none⟩, some [67]⟩ ∧
      find ⟨⟨"m", "v1"⟩, some (.directory "w")⟩ =
        .ok ⟨some ⟨m, some (Path.absolute ["w"])⟩, some [67]⟩ := by
  intro entries parent find m
  have packed : Archive.Holds ⟨"m", "v1"⟩ entries shelved := ⟨by decide, by decide +kernel⟩
  obtain ⟨agree, found⟩ := @agreed_of_resolve Unit shelf (fun _ => return .archive entries) parent
    parent ⟨⟨"m", "v1"⟩, some (.directory "w")⟩ ⟨⟨"m", "v1"⟩, none⟩ "w" ⟨"/", []⟩ _ _ _ ⟨"m", "v1"⟩ _ _
    ⟨(), []⟩ _ ⟨(), []⟩ rfl rfl (Disk.resolve_of_plain (by decide +kernel)) shelf_holds (by decide)
    rfl rfl rfl packed
  have told : find ⟨⟨"m", "v1"⟩, none⟩ = .ok ⟨some ⟨m, none⟩, some [67]⟩ :=
    found.trans (by decide +kernel)
  exact ⟨told, agree.trans ((congrArg _ told).trans (by decide +kernel))⟩

end Content

end Attribution

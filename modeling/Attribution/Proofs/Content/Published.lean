import Attribution.Content
import Attribution.Proofs.Archive

/-!
The content of published modules, out of the archives that a fetcher brings. An archive that cannot be
opened is a problem with the download, but damage to an entry that is read is not reported as one.
-/

namespace Attribution

variable {σ : Type}

/-- The version that is downloaded for a requirement, none where a directory replaces it. -/
def Requirement.published? (r : Requirement) : Option ModuleVersion :=
  match r.replacement with
  | some (.directory _) => none
  | some (.module v) => some v
  | none => some r.version

/-- The scene in which the archive of a version is asked for. -/
def Scene.asked (scene : Scene σ) (v : ModuleVersion) : Scene σ :=
  ⟨scene.world, scene.log ++ [⟨.debug, "Downloading " ++ v.text ++ " content"⟩]⟩

namespace Content

/-- What the content of a published module is documented to come to: something, a problem with the
download that names the version, or a malformed manifest. -/
def Reported (v : ModuleVersion) : Except Failure Content → Prop
  | .ok _ => True
  | .error f => ∃ p, f = .problem p ∧
      (p.kind = .download ∧ p.module = some v ∨ p.kind = .manifestMalformed)

theorem not_reported_fault {v : ModuleVersion} (fault : Fault) :
    ¬ Reported v (.error (.fault fault)) := by
  rintro ⟨p, problem, -⟩
  cases problem

section

variable {disk : Disk} {fetch : ModuleVersion → Run σ Payload} {parent : PlacedManifest}
  {r : Requirement} {v : ModuleVersion} {payload : Payload} {entries : List Entry}
  {scene scene' : Scene σ}

theorem resolve_published (published : r.published? = some v) :
    resolve disk fetch parent r = remote fetch v := by
  unfold Requirement.published? at published
  unfold resolve
  cases replaced : r.replacement with
  | none =>
      rw [replaced] at published
      cases published
      rfl
  | some replacement =>
      rw [replaced] at published
      cases replacement with
      | directory path => cases published
      | module v' =>
          cases published
          rfl

theorem run_remote (fetched : (fetch v).run.run (scene.asked v) = (.ok payload, scene')) :
    (remote fetch v).run.run scene = (ofPayload v payload).run.run scene' := by
  change (fetch v >>= fun payload => ofPayload v payload).run.run (scene.asked v) = _
  rw [ExceptT.run_bind, StateT.run_bind, fetched]
  rfl

theorem reported_readManifest (scene : Scene σ) (data : Bytes) (license : Option Bytes) :
    Reported v ((do
      let manifest ← readManifest data none
      return ⟨some manifest, license⟩ : Run σ Content).run.run scene).1 := by
  unfold readManifest
  cases GoMod.parse data with
  | error fault => exact ⟨_, rfl, .inr rfl⟩
  | ok m => trivial

theorem ofPayload_unopened (unopened : payload.entries? = none) :
    ((ofPayload v payload).run.run scene).1 =
      .error (.problem (.new .download (some Download.Cause.badArchive.message) (some v))) := by
  rw [ofPayload, unopened]
  rfl

theorem ofPayload_spoiled (opened : payload.entries? = some entries)
    (spoiled : Archive.Spoiled (Archive.starts v) entries) (scene : Scene σ) :
    ∃ fault, ((ofPayload v payload).run.run scene).1 = .error (.fault fault) := by
  obtain ⟨fault, picked⟩ := Archive.exists_pick_error spoiled
  refine ⟨fault, ?_⟩
  simp only [ofPayload, opened, picked]
  rfl

theorem reported_ofPayload (opened : payload.entries? = some entries)
    (sound : ¬ Archive.Spoiled (Archive.starts v) entries) :
    Reported v ((ofPayload v payload).run.run scene).1 := by
  simp only [ofPayload, opened, Archive.pick_of_sound sound]
  generalize (Archive.firstLicense? (Archive.starts v) entries).map (·.data) = license
  cases (Archive.firstManifest? (Archive.starts v) entries).map (·.data) with
  | none => cases license <;> trivial
  | some data =>
      cases license with
      | none => exact reported_readManifest ⟨scene.world, scene.log ++ [_]⟩ data none
      | some text => exact reported_readManifest scene data (some text)

end

/-- What is found for a published requirement is as documented, unless its archive has an entry
without a name, or the entry that the license or the manifest is read from is damaged. Then a fault
ends the search. An archive that cannot be opened is a problem with the download. -/
theorem reported_of_resolve (disk : Disk) {fetch : ModuleVersion → Run σ Payload}
    (parent : PlacedManifest) {r : Requirement} {v : ModuleVersion} {payload : Payload}
    {scene scene' : Scene σ} (published : r.published? = some v)
    (fetched : (fetch v).run.run (scene.asked v) = (.ok payload, scene')) :
    let done := (resolve disk fetch parent r).run.run scene
    (Reported v done.1 ↔ ∀ entries ∈ payload.entries?,
      ¬ Archive.Spoiled (Archive.starts v) entries) ∧
    (¬ Reported v done.1 → ∃ fault, done.1 = .error (.fault fault)) ∧
    (payload.entries? = none →
      ∃ p, done.1 = .error (.problem p) ∧ p.kind = .download ∧ p.module = some v) := by
  intro done
  have same : done = (ofPayload v payload).run.run scene' := by
    rw [← run_remote fetched, ← resolve_published published]
  rw [same]
  cases opened : payload.entries? with
  | none =>
      rw [ofPayload_unopened opened]
      have reported : Reported v (.error (.problem (.new .download
          (some Download.Cause.badArchive.message) (some v)))) := ⟨_, rfl, .inl ⟨rfl, rfl⟩⟩
      exact ⟨iff_of_true reported nofun, absurd reported, fun _ => ⟨_, rfl, rfl, rfl⟩⟩
  | some entries =>
      by_cases spoiled : Archive.Spoiled (Archive.starts v) entries
      · obtain ⟨fault, ends⟩ := ofPayload_spoiled opened spoiled scene'
        rw [ends]
        exact ⟨iff_of_false (not_reported_fault fault) fun sound => sound entries rfl spoiled,
          fun _ => ⟨fault, rfl⟩, nofun⟩
      · have reported : Reported v ((ofPayload v payload).run.run scene').1 :=
          reported_ofPayload opened spoiled
        refine ⟨iff_of_true reported ?_, absurd reported, nofun⟩
        rintro entries' same
        cases same
        exact spoiled

/-- What is found for version one of a module that nothing replaces, in an archive with these
entries. -/
def search (entries : List Entry) : Except Failure Content :=
  ((resolve ⟨[], []⟩ (fun _ => return .archive entries) ⟨⟨⟨"w", ""⟩, [], []⟩, none⟩
    ⟨⟨"m", "v1"⟩, none⟩ : Run Unit Content).run.run ⟨(), []⟩).1

/-- Damage to an entry that is not read goes unnoticed. -/
theorem reported_of_resolve_scratched :
    let entries : List Entry := [⟨"m@v1/main.go", [], false⟩, ⟨"m@v1/LICENSE", [77], true⟩]
    search entries = .ok ⟨none, some [77]⟩ ∧ Reported ⟨"m", "v1"⟩ (search entries) := by
  intro entries
  have sound : ¬ Archive.Spoiled (Archive.starts ⟨"m", "v1"⟩) entries := by decide +kernel
  refine ⟨by decide +kernel, ?_⟩
  have found := @reported_of_resolve Unit ⟨[], []⟩ (fun _ => return .archive entries)
    ⟨⟨⟨"w", ""⟩, [], []⟩, none⟩ ⟨⟨"m", "v1"⟩, none⟩ _ _ ⟨(), []⟩ _ rfl rfl
  refine found.1.mpr ?_
  rintro _ ⟨⟩
  exact sound

/-- Damage to the entry that the license is read from escapes as a fault. -/
theorem damaged_unreported :
    let entries : List Entry := [⟨"m@v1/LICENSE", [77], false⟩]
    search entries = .error (.fault (.damagedEntry "m@v1/LICENSE")) ∧
      ¬ Reported ⟨"m", "v1"⟩ (search entries) := by
  intro entries
  have ends : search entries = .error (.fault (.damagedEntry "m@v1/LICENSE")) := by decide +kernel
  exact ⟨ends, ends ▸ not_reported_fault _⟩

end Content

end Attribution

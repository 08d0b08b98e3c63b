import Attribution.Proofs.Archive.Candidate
import Attribution.Proofs.Content.Published

/-!
Which entries of an archive make up the content of a published module. The license text and the
manifest are those of the first candidates, whatever else is in the archive: other entries may be
put in, taken out or moved, and may be damaged, without any trace in what is found or logged.
-/

namespace Attribution

variable {σ : Type}

namespace Content

/-- The content that the bytes of a license and of a manifest make up. -/
def ofTexts (directory : Option Path) (license manifest : Option Bytes) : Except Failure Content :=
  match manifest with
  | none => .ok ⟨none, license⟩
  | some data =>
    match GoMod.parse data with
    | .ok m => .ok ⟨some ⟨m, directory⟩, license⟩
    | .error fault => .error (.problem (.new .manifestMalformed (some fault.message) none))

section

variable {disk : Disk} {fetch fetch' : ModuleVersion → Run σ Payload} {parent : PlacedManifest}
  {r : Requirement} {v : ModuleVersion} {payload payload' : Payload} {entries entries' : List Entry}
  {license manifest : Option Bytes}

theorem outcome_readManifest (data : Bytes) (directory : Option Path) (license : Option Bytes)
    (scene : Scene σ) :
    ((do
      let manifest ← readManifest data directory
      return ⟨some manifest, license⟩ : Run σ Content).run.run scene).1 =
      ofTexts directory license (some data) := by
  unfold readManifest
  cases parsed : GoMod.parse data <;> simp only [ofTexts, parsed] <;> rfl

theorem outcome_ofPayload (opened : payload.entries? = some entries)
    (picked : Archive.pick (Archive.starts v) ⟨none, none⟩ entries = .ok ⟨license, manifest⟩)
    (scene : Scene σ) :
    ((ofPayload v payload).run.run scene).1 = ofTexts none license manifest := by
  simp only [ofPayload, opened, picked]
  cases manifest with
  | none => cases license <;> rfl
  | some data =>
      cases license with
      | none => exact outcome_readManifest data none none ⟨scene.world, scene.log ++ [_]⟩
      | some text => exact outcome_readManifest data none (some text) scene

theorem outcome_ofPayload_of_named (opened : payload.entries? = some entries)
    (named : ∀ e ∈ entries, e.name ≠ "") (scene : Scene σ) :
    ((ofPayload v payload).run.run scene).1 =
      match Archive.damaged? v entries with
      | some e => .error (.fault (.damagedEntry e.name))
      | none => ofTexts none ((Archive.license? v entries).map (·.data))
          ((Archive.manifest? v entries).map (·.data)) := by
  have picked := @Archive.pick_starts v _ named
  cases damaged : Archive.damaged? v entries with
  | some e =>
      rw [damaged] at picked
      simp only [ofPayload, opened, picked]
      rfl
  | none =>
      rw [damaged] at picked
      exact outcome_ofPayload opened picked scene

theorem ofPayload_congr (opened : payload.entries? = some entries)
    (opened' : payload'.entries? = some entries')
    (same : Archive.pick (Archive.starts v) ⟨none, none⟩ entries' =
      Archive.pick (Archive.starts v) ⟨none, none⟩ entries) :
    (ofPayload v payload' : Run σ Content) = ofPayload v payload := by
  simp only [ofPayload, opened, opened', same]

end

/-- Of an archive of which all entries have names, the first license candidate and the first
manifest candidate are read, and no other entry. The first of the two that is damaged ends the
search; otherwise what is found is the one's bytes and what the other says, in no directory. Entries
may be put in or taken out, in any number and order, as long as both stay the first of their kinds:
nothing changes. So it is with what lies deeper in the module or in one whose identity only starts
alike. -/
theorem selected_of_resolve (disk : Disk) {fetch : ModuleVersion → Run σ Payload}
    (parent : PlacedManifest) {r : Requirement} {v : ModuleVersion} {payload : Payload}
    {entries : List Entry} {scene scene' : Scene σ} (published : r.published? = some v)
    (fetched : (fetch v).run.run (scene.asked v) = (.ok payload, scene'))
    (opened : payload.entries? = some entries) (named : ∀ e ∈ entries, e.name ≠ "") :
    let done := (resolve disk fetch parent r).run.run scene
    (done.1 =
      match Archive.damaged? v entries with
      | some e => .error (.fault (.damagedEntry e.name))
      | none => ofTexts none ((Archive.license? v entries).map (·.data))
          ((Archive.manifest? v entries).map (·.data))) ∧
    (∀ (fetch' : ModuleVersion → Run σ Payload) (payload' : Payload) (entries' : List Entry),
      (fetch' v).run.run (scene.asked v) = (.ok payload', scene') →
      payload'.entries? = some entries' →
      Relation.EqvGen (Archive.Insertion v) entries entries' →
      (resolve disk fetch' parent r).run.run scene = done) ∧
    ∀ (before after : List Entry) (e : Entry) (rest : List Char), e.name ≠ "" → e.GoesOn v rest →
      (∀ file, '/' ∉ file → rest ≠ '/' :: file) →
      Archive.Insertion v (before ++ after) (before ++ e :: after) := by
  intro done
  have same : done = (ofPayload v payload).run.run scene' := by
    rw [← run_remote fetched, ← resolve_published published]
  refine ⟨?_, fun fetch' payload' entries' fetched' opened' rearranged => ?_, ?_⟩
  · rw [same]
    exact outcome_ofPayload_of_named opened named scene'
  · have picked := Archive.pick_eq_of_eqvGen rearranged
    rw [same, resolve_published published, run_remote fetched',
      ofPayload_congr opened opened' picked]
  · exact fun before after e rest known goes astray =>
      .of_not_isTop before after known (goes.not_isTop astray)

/-- What is found for a version that nothing replaces, in an archive with these entries. -/
def unpacked (v : ModuleVersion) (entries : List Entry) : Except Failure Content :=
  ((resolve ⟨[], []⟩ (fun _ => return .archive entries) ⟨⟨⟨"w", ""⟩, [], []⟩, none⟩ ⟨v, none⟩ :
    Run Unit Content).run.run ⟨(), []⟩).1

/-- The one license is in lower case, another one lies deeper, a third in a later version, and a
fourth comes too late. Damage to these three is not noticed. -/
theorem selected_of_resolve_crowded :
    let v : ModuleVersion := ⟨"x/M", "v1"⟩
    let license : Entry := ⟨"x/m@v1/Copying", [77], true⟩
    let manifest : Entry := ⟨"x/M@v1/go.mod", Bytes.ofString "module m", true⟩
    let vendored : Entry := ⟨"x/M@v1/vendor/LICENSE", [1], false⟩
    let later : Entry := ⟨"x/M@v10/LICENSE", [2], false⟩
    let second : Entry := ⟨"x/M@v1/LICENSE", [3], false⟩
    let found : Except Failure Content := .ok ⟨some ⟨⟨⟨"m", ""⟩, [], []⟩, none⟩, some [77]⟩
    (∀ e ∈ [license, manifest], e.name ≠ "") ∧ unpacked v [license, manifest] = found ∧
      unpacked v [vendored, license, later, manifest, second] = found := by
  intro v license manifest vendored later second found
  have named : ∀ e ∈ [license, manifest], e.name ≠ "" := by decide
  obtain ⟨alone, others, astray⟩ := @selected_of_resolve Unit ⟨[], []⟩
    (fun _ => return .archive [license, manifest]) ⟨⟨⟨"w", ""⟩, [], []⟩, none⟩ ⟨v, none⟩ v
    (.archive [license, manifest]) [license, manifest] ⟨(), []⟩ _ rfl rfl rfl named
  have told : unpacked v [license, manifest] = found := alone.trans (by decide +kernel)
  have deep : Archive.Insertion v [license, manifest] [vendored, license, manifest] := by
    refine astray [] _ vendored "/vendor/LICENSE".toList (by decide) ⟨_, .inl rfl, by decide⟩ ?_
    intro file flat same
    rw [← (List.cons.inj same).2] at flat
    exact flat (by decide)
  have apart : Archive.Insertion v [vendored, license, manifest]
      [vendored, license, later, manifest] := by
    refine astray [vendored, license] _ later "0/LICENSE".toList (by decide)
      ⟨_, .inl rfl, by decide⟩ ?_
    intro file _ same
    exact absurd (List.cons.inj same).1 (by decide)
  have behind : Archive.Insertion v [vendored, license, later, manifest]
      [vendored, license, later, manifest, second] :=
    .mk [vendored, license, later, manifest] [] second (by decide)
      (fun _ => ⟨license, by decide, by decide +kernel⟩)
      fun candidate => absurd candidate (by decide +kernel)
  have same := others (fun _ => return .archive [vendored, license, later, manifest, second]) _ _ rfl
    rfl (.trans _ _ _ (.rel _ _ deep) (.trans _ _ _ (.rel _ _ apart) (.rel _ _ behind)))
  exact ⟨named, told, (congrArg Prod.fst same).trans told⟩

end Content

end Attribution

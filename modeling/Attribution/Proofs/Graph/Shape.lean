import Attribution.Proofs.Graph.Invariant
import Attribution.Proofs.Graph.Route
import Attribution.Proofs.Tree.Walk

/-!
What nodes and kept modules look like. The resolution of a node says what it holds: a license text of
its own, a placeholder, or nothing. A module is kept under its own identity, with a license, and with
a node for each requirement of the manifest it is kept with. Both hold after any history of builds,
failed ones among them.
-/

namespace Attribution

variable {σ : Type}

namespace Node

/-- A text that is not empty, under the label it was given. -/
def Attested (n : Node) : Prop :=
  ∃ byte bytes name, n.license = some ⟨byte :: bytes, name⟩

/-- The placeholder that a requirement under this identity is given. -/
def Unattested (n : Node) : Prop :=
  ∃ r : Requirement, r.id = n.id ∧ n.license = some (License.unknown r.version)

/-- A node holds what its resolution says. -/
def Shaped (n : Node) : Prop :=
  match n.resolution with
  | .resolved => n.Attested
  | .leaf => n.Attested ∧ n.dependencies = []
  | .skipped => n.Unattested ∧ n.dependencies = []
  | .unlicensed => n.Unattested
  | .unexpanded | .cycle => n.Bare
  | .root => False

/-- Only a lenient build leaves modules out, closes cycles, or goes without a license. -/
def Formed (lenient : Bool) (n : Node) : Prop :=
  n.Shaped ∧ (lenient = false → n.resolution ∈ [Resolution.resolved, .leaf, .unexpanded])

theorem formed_bare (lenient : Bool) (r : Requirement) : Formed lenient (.bare r .unexpanded) :=
  ⟨⟨rfl, rfl⟩, fun _ => by simp [bare]⟩

theorem formed_cycle {lenient : Bool} (mode : lenient = true) (r : Requirement) :
    Formed lenient (.bare r .cycle) :=
  ⟨⟨rfl, rfl⟩, fun strict => nomatch mode.symm.trans strict⟩

theorem Shaped.alone {n : Node} (shaped : n.Shaped) (bare : n.license = none) :
    n.dependencies = [] := by
  unfold Shaped at shaped
  split at shaped
  · obtain ⟨byte, bytes, name, license⟩ := shaped
    exact nomatch bare.symm.trans license
  · exact shaped.2
  · exact shaped.2
  · obtain ⟨r, -, license⟩ := shaped
    exact nomatch bare.symm.trans license
  · exact shaped.2
  · exact shaped.2
  · exact shaped.elim

/-- What has a license was looked into, and is no end of a branch. -/
theorem Shaped.resolution {n : Node} (shaped : n.Shaped) (licensed : n.license.isSome) :
    n.resolution ∈ [Resolution.resolved, .leaf, .skipped, .unlicensed] := by
  unfold Shaped at shaped
  split at shaped
  case h_1 h | h_2 h | h_3 h | h_4 h => simp [h]
  case h_5 | h_6 =>
    rw [shaped.1] at licensed
    cases licensed
  case h_7 => exact shaped.elim

/-- Another requirement of the same module may have other things below it, if the module has a
manifest to read them from. -/
theorem Formed.answer {lenient : Bool} {n : Node} (formed : n.Formed lenient) {r : Requirement}
    (same : n.id = r.id) {ns : List Node}
    (below : ns = n.dependencies ∨ n.resolution ∈ [Resolution.resolved, .unlicensed]) :
    Formed lenient ⟨r.version, r.replacement, n.license, ns, n.resolution⟩ := by
  obtain ⟨shaped, strict⟩ := formed
  refine ⟨?_, strict⟩
  unfold Shaped at shaped ⊢
  cases h : n.resolution <;> simp only [h] at shaped below ⊢
  case resolved => exact shaped
  case unlicensed =>
    obtain ⟨q, hq, license⟩ := shaped
    exact ⟨q, hq.trans same, license⟩
  case skipped =>
    obtain ⟨⟨q, hq, license⟩, alone⟩ := shaped
    exact ⟨⟨q, hq.trans same, license⟩, (below.resolve_right (by decide)).trans alone⟩
  case leaf | unexpanded | cycle =>
    exact ⟨shaped.1, (below.resolve_right (by decide)).trans shaped.2⟩

end Node

namespace Cache

/-- What a kept module requires, as far as it is known. -/
def Entry.required (e : Entry) : List Requirement :=
  match e.manifest with
  | some m => m.requirements
  | none => []

theorem Entry.required_of_known {e : Entry} {m : PlacedManifest} (known : e.manifest = some m) :
    e.required = m.requirements := by
  simp only [required, known]

/-- An entry that stands for the module with this identity. -/
structure Entry.Sound (id : ModuleId) (e : Entry) : Prop where
  same : e.node.id = id
  levels : 1 ≤ e.levels
  license : e.node.license.isSome
  resolution : e.node.resolution ∈ [Resolution.resolved, .leaf, .skipped, .unlicensed]
  children : e.node.dependencies.map Node.requirement = e.required
  expandable : e.manifest.isSome → e.node.resolution ∈ [Resolution.resolved, .unlicensed]

/-- A module whose requirements are not known is kept without any. -/
theorem Entry.Sound.alone {id : ModuleId} {e : Entry} (sound : e.Sound id)
    (unread : e.manifest = none) : e.node.dependencies = [] := by
  have children := sound.children
  rw [Entry.required, unread] at children
  exact List.map_eq_nil_iff.mp children

/-- Every entry is sound, and all of its tree looks as it should. -/
def Formed (lenient : Bool) (c : Cache) : Prop :=
  ∀ entry ∈ c.entries, entry.2.Sound entry.1 ∧ entry.2.node.Throughout (Node.Formed lenient)

private theorem mem_of_lookup {id : ModuleId} {e : Entry} {entries : List (ModuleId × Entry)}
    (h : entries.lookup id = some e) : (id, e) ∈ entries := by
  induction entries with
  | nil => cases h
  | cons first rest ih =>
      obtain ⟨key, old⟩ := first
      rw [lookup_cons] at h
      split at h
      next here =>
        cases h
        exact here ▸ List.mem_cons_self
      next => exact List.mem_cons_of_mem _ (ih h)

theorem mem_of_find? {c : Cache} {id : ModuleId} {e : Entry} (h : c.find? id = some e) :
    (id, e) ∈ c.entries := mem_of_lookup h

private theorem mem_insert {id : ModuleId} {e : Entry} {entries : List (ModuleId × Entry)}
    {entry : ModuleId × Entry} (h : entry ∈ insert id e entries) :
    entry = (id, e) ∨ entry ∈ entries := by
  induction entries with
  | nil => exact .inl (List.mem_singleton.mp h)
  | cons first rest ih =>
      obtain ⟨key, old⟩ := first
      rw [insert] at h
      split at h
      next here =>
        cases here
        exact (List.mem_cons.mp h).imp_right (List.mem_cons_of_mem _)
      next =>
        cases List.mem_cons.mp h with
        | inl same => exact .inr (same ▸ List.mem_cons_self)
        | inr later => exact (ih later).imp_right (List.mem_cons_of_mem _)

theorem mem_store {c : Cache} {e : Entry} {entry : ModuleId × Entry}
    (h : entry ∈ (c.store e).entries) : entry = (e.node.id, e) ∨ entry ∈ c.entries := mem_insert h

/-- What holds of all entries, and of one that is stored, holds of all entries then. -/
theorem forall_store {P : ModuleId × Entry → Prop} {c : Cache} {e : Entry}
    (all : ∀ entry ∈ c.entries, P entry) (here : P (e.node.id, e)) :
    ∀ entry ∈ (c.store e).entries, P entry := by
  intro entry h
  obtain rfl | old := mem_store h
  · exact here
  · exact all entry old

theorem Formed.store {lenient : Bool} {c : Cache} (formed : c.Formed lenient) {node : Node} {n : Nat}
    {manifest : Option PlacedManifest} (license : node.license.isSome)
    (resolution : node.resolution ∈ [Resolution.resolved, .leaf, .skipped, .unlicensed])
    (children : node.dependencies.map Node.requirement =
      Entry.required ⟨node, (n + 1 : Nat), manifest⟩)
    (expandable : manifest.isSome → node.resolution ∈ [Resolution.resolved, .unlicensed])
    (throughout : node.Throughout (Node.Formed lenient)) :
    (c.store ⟨node, (n + 1 : Nat), manifest⟩).Formed lenient := by
  have levels : (1 : Int) ≤ (n + 1 : Nat) := by omega
  exact forall_store formed ⟨⟨rfl, levels, license, resolution, children, expandable⟩, throughout⟩

end Cache

theorem Verdict.lenient_of_skip {lenient : Bool} {v : ModuleVersion}
    {found : Except Failure Content} {p : Problem} (h : Verdict.of lenient v found = .skip p) :
    lenient = true := by
  match found with
  | .ok content => cases h
  | .error (.fault f) => cases h
  | .error (.problem q) =>
      simp only [Verdict.of] at h
      split at h
      next skips => exact (Bool.and_eq_true_iff.mp skips).1
      next => split at h <;> cases h

namespace Build

variable {b : Builder σ} {parent : PlacedManifest} {r : Requirement} {path : List ModuleId}
  {s t u : BuildState σ} {n : Nat}

theorem resolutionOf_text {content : Content} {byte : UInt8} {bytes : Bytes}
    (given : content.license = some (byte :: bytes)) :
    resolutionOf content = if content.manifest.isSome then .resolved else .leaf := by
  simp only [resolutionOf, given]

theorem resolutionOf_blank {content : Content}
    (blank : ∀ byte bytes, content.license ≠ some (byte :: bytes)) :
    resolutionOf content = .unlicensed := by
  unfold resolutionOf
  split
  next h => exact absurd h (blank _ _)
  next => rfl

/-- A module whose content was found holds the text that was found, or a placeholder. -/
theorem formed_of_content {content : Content} {l : License}
    (run : (licenseFor b r content.license).run.run s = (.ok l, t)) (ns : List Node)
    (alone : content.manifest = none → ns = []) :
    Node.Formed b.lenient ⟨r.version, r.replacement, some l, ns, resolutionOf content⟩ ∧
      resolutionOf content ∈ [Resolution.resolved, .leaf, .skipped, .unlicensed] ∧
      (content.manifest.isSome → resolutionOf content ∈ [Resolution.resolved, .unlicensed]) := by
  cases licenses_of_run run with
  | labelled given label =>
      rw [resolutionOf_text given]
      cases known : content.manifest with
      | none =>
          refine ⟨⟨⟨⟨_, _, _, rfl⟩, alone known⟩, fun _ => ?_⟩, ?_, nofun⟩ <;> simp
      | some m =>
          refine ⟨⟨⟨_, _, _, rfl⟩, fun _ => ?_⟩, ?_, fun _ => ?_⟩ <;> simp
  | placeholder blank mode =>
      rw [resolutionOf_blank blank]
      refine ⟨⟨⟨r, rfl, rfl⟩, fun strict => nomatch mode.symm.trans strict⟩, ?_, fun _ => ?_⟩ <;> simp

theorem formed_of_entry {e : Cache.Entry} (sound : e.Sound r.id)
    (throughout : e.node.Throughout (Node.Formed b.lenient)) {ns : List Node}
    (below : ns = e.node.dependencies ∨ e.manifest.isSome) :
    Node.Formed b.lenient ⟨r.version, r.replacement, e.node.license, ns, e.node.resolution⟩ :=
  (Node.throughout_iff.mp throughout).1.answer sound.same (below.imp_right sound.expandable)

/-- A module that is done with at once gets a node that looks as it should, and is kept so. -/
theorem Opens.formed_of_done {node : Node} (opens : Opens b parent r path s n (.done (.ok node)) t)
    (formed : s.cache.Formed b.lenient) :
    t.cache.Formed b.lenient ∧ node.Throughout (Node.Formed b.lenient) := by
  have leafy {m : Node} (here : m.Formed b.lenient) (alone : m.dependencies = []) :
      m.Throughout (Node.Formed b.lenient) := by
    rw [Node.throughout_iff, alone]
    exact ⟨here, nofun⟩
  cases opens with
  | bare => exact ⟨formed, leafy (Node.formed_bare b.lenient r) rfl⟩
  | cycle again mode => exact ⟨formed, leafy (Node.formed_cycle mode r) rfl⟩
  | shared new hit enough =>
      -- The node is kept for one requirement and answers another one of the same identity.
      obtain ⟨sound, throughout⟩ := formed _ (Cache.mem_of_find? hit)
      refine ⟨formed, Node.throughout_iff.mpr ⟨formed_of_entry sound throughout (.inl rfl), ?_⟩⟩
      exact (Node.throughout_iff.mp throughout).2
  | search new miss settled =>
      generalize made : b.verdict parent r (s.entered r).toScene = verdict at settled
      cases settled with
      | skipped =>
          have mode : b.lenient = true := Verdict.lenient_of_skip made
          have here : Node.Formed b.lenient
              ⟨r.version, r.replacement, some (License.unknown r.version), [], .skipped⟩ :=
            ⟨⟨⟨r, rfl, rfl⟩, rfl⟩, fun strict => nomatch mode.symm.trans strict⟩
          exact ⟨formed.store rfl (by simp) rfl nofun (leafy here rfl), leafy here rfl⟩
      | leaf run alone =>
          obtain ⟨here, resolution, -⟩ := formed_of_content run [] fun _ => rfl
          have cache := (licenseFor_frame run).1
          refine ⟨?_, leafy here rfl⟩
          rw [BuildState.kept_cache, BuildState.counted_cache, BuildState.told_cache, cache]
          exact formed.store rfl resolution rfl nofun (leafy here rfl)

theorem Opens.formed_of_expand {d : Draft} (opens : Opens b parent r path s n (.expand d) t)
    (formed : s.cache.Formed b.lenient) (ns : List Node) :
    (d.node r ns).Formed b.lenient ∧ d.license.isSome ∧
      d.resolution ∈ [Resolution.resolved, .unlicensed] := by
  cases opens with
  | deepen new hit known few =>
      -- It was kept with a manifest, so anything may hang on it.
      obtain ⟨sound, throughout⟩ := formed _ (Cache.mem_of_find? hit)
      have readable := Option.isSome_of_eq_some known
      exact ⟨formed_of_entry sound throughout (.inr readable), sound.license,
        sound.expandable readable⟩
  | search new miss settled =>
      generalize b.verdict parent r (s.entered r).toScene = verdict at settled
      cases settled with
      | found run known =>
          obtain ⟨here, -, expandable⟩ := formed_of_content run ns
            fun none => nomatch none.symm.trans known
          exact ⟨here, rfl, expandable (Option.isSome_of_eq_some known)⟩

/-- Every build keeps the cache and its nodes in shape. -/
theorem formed (b : Builder σ) :
    Upholds b (Cache.Formed b.lenient) fun _ _ node => node.Throughout (Node.Formed b.lenient) where
  empty := nofun
  grow _ good := good
  done opens formed := opens.formed_of_done formed
  finish {parent r path s t u n d ns} opens below before formed good := by
    obtain ⟨here, license, expandable⟩ := opens.formed_of_expand before ns
    have throughout : (d.node r ns).Throughout (Node.Formed b.lenient) :=
      Node.throughout_iff.mpr ⟨here, good⟩
    have resolution : ∀ resolution ∈ [Resolution.resolved, .unlicensed],
        resolution ∈ [Resolution.resolved, .leaf, .skipped, .unlicensed] := by decide
    refine ⟨Draft.finish_induction ?_ formed, throughout⟩
    exact formed.store license (resolution _ expandable) (below.requirements_eq rfl)
      (fun _ => expandable) throughout

end Build

namespace Builder

/-- After any history of builds, every module is kept as a sound entry; and a build that returns a
tree returns one whose nodes look as their resolutions say, with a node for each requirement of the
root. -/
theorem shaped_of_build {b : Builder σ} {roots : PlacedManifest → Prop} {s : BuildState σ}
    (reachable : b.Reachable roots s) :
    (∀ entry ∈ s.cache.entries, entry.2.Sound entry.1) ∧
    ∀ root depth t, (b.build root depth s).1 = .ok t →
      t.root.dependencies.map Node.requirement = root.requirements ∧
      ∀ entry ∈ t.walk, entry.2.Shaped ∧
        (b.lenient = false → entry.2.resolution ∈ [Resolution.resolved, .leaf, .unexpanded]) := by
  have formed := upheld_of_reachable (Build.formed b) reachable
  refine ⟨fun entry h => (formed entry h).1, fun root depth t built => ?_⟩
  obtain ⟨first, throughout⟩ := (upheld_build (Build.formed b) formed root depth).2 t built
  exact ⟨first, t.forall_walk.mpr throughout⟩

/-- One module is found, one of those it requires has no license, and the other cannot be fetched. -/
def ragged : Builder Unit where
  resolver _ r := ExceptT.mk (pure (
    if r.id = "a@v1" then .ok ⟨some (Chart.manifest "a" ["b", "c"]), some [77, 73, 84]⟩
    else if r.id = "b@v1" then .error (.problem (.new (.licenseNotFound none) none none))
    else .error (.problem (.new .download none none))))
  classifier _ := pure "MIT"
  lenient := true

/-- What a build of the ragged graph comes to, to so many levels. -/
def raggedBuild (depth : Int) (s : BuildState Unit) : Except Failure Tree × BuildState Unit :=
  ragged.build (Chart.manifest "m" ["a"]) depth s

/-- What is met when a kept module is expanded further looks as it should. -/
theorem shaped_of_build_ragged :
    ∃ t, (raggedBuild 2 (raggedBuild 1 (.fresh ())).2).1 = .ok t ∧
      t.walk.map (·.2.resolution) = [.resolved, .unlicensed, .skipped] ∧
      ∀ entry ∈ t.walk, entry.2.Shaped := by
  have resolutions : (raggedBuild 2 (raggedBuild 1 (.fresh ())).2).1.toOption.map
      (fun t => t.walk.map (·.2.resolution)) = some [.resolved, .unlicensed, .skipped] := by
    decide +kernel
  cases build : (raggedBuild 2 (raggedBuild 1 (.fresh ())).2).1 with
  | error f =>
      rw [build] at resolutions
      cases resolutions
  | ok t =>
      rw [build] at resolutions
      have reachable : ragged.Reachable (fun _ => True) (raggedBuild 1 (.fresh ())).2 :=
        .build 1 (.fresh ()) trivial
      obtain ⟨-, trees⟩ := shaped_of_build reachable
      obtain ⟨-, shaped⟩ := trees _ 2 t build
      exact ⟨t, rfl, Option.some.inj resolutions, fun entry h => (shaped entry h).1⟩

end Builder

end Attribution

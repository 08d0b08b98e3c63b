import Attribution.Proofs.Graph.Shape
import Attribution.Proofs.Tree.Modules

/-!
What a build does to the kept modules, and what its tree shows of them. Kept modules stay kept, under
the same license, resolution and manifest and with no fewer levels, however the build ends. So every
licensed node of a tree shows what is kept of its module, and a report may take any of them.
-/

namespace Attribution

variable {σ : Type}

namespace Cache

/-- A node shows what is kept of its module, and hangs what the kept manifest requires. -/
def Shows (c : Cache) (n : Node) : Prop :=
  ∃ e, c.find? n.id = some e ∧ e.node.license = n.license ∧ e.node.resolution = n.resolution ∧
    n.dependencies.map Node.requirement = e.required

theorem Entry.LE.required_eq {old new : Entry} (le : old.LE new) : new.required = old.required := by
  rw [Entry.required, le.manifest, Entry.required]

theorem Shows.grow {c c' : Cache} {n : Node} (shows : c.Shows n) (le : c.LE c') : c'.Shows n := by
  obtain ⟨e, kept, license, resolution, children⟩ := shows
  obtain ⟨e', kept', grown⟩ := le n.id e kept
  refine ⟨e', kept', ?_, ?_, ?_⟩
  · rw [grown.license, license]
  · rw [grown.resolution, resolution]
  · rw [grown.required_eq, children]

/-- Whatever is licensed in a tree shows what is kept. -/
def Agrees (c : Cache) (n : Node) : Prop := n.Throughout fun m => m.license.isSome → c.Shows m

theorem Agrees.grow {c c' : Cache} {n : Node} (agrees : c.Agrees n) (le : c.LE c') :
    c'.Agrees n := Node.Throughout.imp agrees fun _ shows licensed => (shows licensed).grow le

theorem Agrees.of_shows {c : Cache} {n : Node} (here : c.Shows n)
    (below : ∀ m ∈ n.dependencies, c.Agrees m) : c.Agrees n :=
  Node.throughout_iff.mpr ⟨fun _ => here, below⟩

theorem agrees_bare (c : Cache) (r : Requirement) (resolution : Resolution) :
    c.Agrees (.bare r resolution) := Node.throughout_iff.mpr ⟨nofun, nofun⟩

/-- Every kept tree agrees with what is kept. -/
def Consistent (c : Cache) : Prop := ∀ id e, c.find? id = some e → c.Agrees e.node

theorem Consistent.store {c : Cache} (consistent : c.Consistent) {e : Entry}
    (le : c.LE (c.store e)) (children : e.node.dependencies.map Node.requirement = e.required)
    (below : ∀ m ∈ e.node.dependencies, c.Agrees m) : (c.store e).Consistent := by
  intro id f kept
  obtain ⟨-, rfl⟩ | old := find?_of_store kept
  · refine Agrees.of_shows ⟨f, find?_store_self c f, rfl, rfl, children⟩ fun m hm => ?_
    exact (below m hm).grow le
  · exact (consistent id f old).grow le

end Cache

namespace Build

variable {b : Builder σ} {parent : PlacedManifest} {r : Requirement} {path : List ModuleId}
  {s t u : BuildState σ} {n : Nat}

theorem Opens.agrees_of_done {node : Node} (opens : Opens b parent r path s n (.done (.ok node)) t)
    (formed : s.cache.Formed b.lenient) (consistent : s.cache.Consistent) :
    t.cache.Consistent ∧ t.cache.Agrees node := by
  have le := opens.cache_le
  cases opens with
  | bare | cycle => exact ⟨consistent, Cache.agrees_bare _ _ _⟩
  | @shared n e new hit enough =>
      have children := (formed _ (Cache.mem_of_find? hit)).1.children
      refine ⟨consistent, Cache.Agrees.of_shows ⟨e, hit, rfl, rfl, children⟩ ?_⟩
      exact (Node.throughout_iff.mp (consistent _ _ hit)).2
  | search new miss settled =>
      obtain ⟨-, ⟨f, ok, -⟩ | ⟨l, resolution, ok, cache⟩⟩ := settled.of_done
      · cases ok
      · cases ok
        rw [cache] at le ⊢
        refine ⟨consistent.store le rfl nofun, Cache.Agrees.of_shows ?_ nofun⟩
        exact ⟨_, Cache.find?_store_self _ _, rfl, rfl, rfl⟩

/-- A finished node shows what is kept, whether it was kept itself or what was there before. -/
theorem Opens.shows_of_finish {d : Draft} {ns : List Node}
    (opens : Opens b parent r path s (n + 1) (.expand d) t)
    (below : Expands b n (path ++ [r.id]) d.manifest d.manifest.requirements t (.ok ns) u) :
    (d.finish (n + 1) r ns u).cache.Shows (d.node r ns) := by
  have children := below.requirements_eq rfl
  obtain cache | ⟨cache, -, former⟩ := d.finish_cache (n + 1) r ns u
  · rw [cache]
    exact ⟨_, Cache.find?_store_self _ _, rfl, rfl, children⟩
  · obtain ⟨-, -, ⟨-, -, none, -⟩ | ⟨e, hit, -, -, known, license, resolution, -⟩⟩ :=
      opens.of_expand
    · exact nomatch none.symm.trans former
    · refine ⟨e, ?_, license, resolution, ?_⟩
      · rw [cache]
        exact (opens.find?_below below).trans hit
      · rw [Cache.Entry.required, known]
        exact children

/-- A kept tree stays in agreement with what is kept when a module is finished. -/
theorem Opens.consistent_of_finish {d : Draft} {ns : List Node}
    (opens : Opens b parent r path s (n + 1) (.expand d) t)
    (below : Expands b n (path ++ [r.id]) d.manifest d.manifest.requirements t (.ok ns) u)
    (consistent : u.cache.Consistent) (agrees : ∀ m ∈ ns, u.cache.Agrees m) :
    (d.finish (n + 1) r ns u).cache.Consistent := by
  refine opens.finish_induction (opens.find?_below below) (fun le => ?_) consistent
  exact consistent.store le (below.requirements_eq rfl) agrees

/-- Every build keeps what is kept, and the nodes it makes, in agreement. -/
theorem consistent (b : Builder σ) :
    Upholds b (fun c => c.Formed b.lenient ∧ c.Consistent)
      fun c _ node => node.Throughout (Node.Formed b.lenient) ∧ c.Agrees node := by
  apply (formed b).extend
  case empty => exact nofun
  case grow =>
    intro c c' n node le agrees
    exact agrees.grow le
  case done =>
    intro parent r path s t n node opens formed consistent
    exact opens.agrees_of_done formed consistent
  case finish =>
    intro parent r path s t u n d ns opens below _ _ consistent agrees
    have le := opens.finish_le (opens.find?_below below) ns
    refine ⟨opens.consistent_of_finish below consistent agrees, ?_⟩
    exact .of_shows (opens.shows_of_finish below) fun m hm => (agrees m hm).grow le

end Build

namespace Builder

/-- A build leaves every kept module kept, with the same license, resolution and manifest and with no
fewer levels, whether it succeeds or fails. -/
theorem cache_le_build (b : Builder σ) (root : PlacedManifest) (depth : Int) (s : BuildState σ) :
    s.cache.LE (b.build root depth s).2.cache := by
  obtain ⟨-, refused⟩ | ⟨n, o, u, rfl, run, result⟩ := b.build_cases root depth s
  · rw [refused]
    exact .refl _
  · rw [result, closed_cache]
    exact run.cache_le

/-- All nodes of a tree look as they should, and every licensed one shows what is kept. -/
theorem shows_of_kept {b : Builder σ} {root : PlacedManifest} {depth : Int} {s : BuildState σ}
    {t : Tree} (kept : s.cache.Formed b.lenient ∧ s.cache.Consistent)
    (built : (b.build root depth s).1 = .ok t) :
    (∀ n ∈ Node.nodes t.root.dependencies, n.Formed b.lenient) ∧
      ∀ n ∈ Node.nodes t.root.dependencies, n.license.isSome →
        (b.build root depth s).2.cache.Shows n := by
  obtain ⟨-, good⟩ := (upheld_build (Build.consistent b) kept root depth).2 t built
  constructor
  · intro n mem
    obtain ⟨top, given, within⟩ := Node.mem_nodes.mp mem
    exact (good top given).1 n within
  · intro n mem
    obtain ⟨top, given, within⟩ := Node.mem_nodes.mp mem
    exact (good top given).2 n within

/-- After any history, a build leaves every kept module as it was, but for how far it is expanded; one
that cannot be looked into further stays just as it was. In a tree that is returned all licensed
occurrences of a module have one license and one resolution, so that the report shows the same
section whichever is picked. -/
theorem constant_of_build {b : Builder σ} {roots : PlacedManifest → Prop} {s : BuildState σ}
    (reachable : b.Reachable roots s) (root : PlacedManifest) (depth : Int) :
    s.cache.LE (b.build root depth s).2.cache ∧
    (∀ levels path parent r (v : BuildState σ) e, v.cache.find? r.id = some e →
      ∀ f w, (Build.visit b levels path parent r).run.run v = (.error f, w) →
        w.cache.find? r.id = some e) ∧
    ∀ t, (b.build root depth s).1 = .ok t →
      (∀ x ∈ t.walk, ∀ y ∈ t.walk, x.2.license.isSome → y.2.license.isSome → x.2.id = y.2.id →
        x.2.license = y.2.license ∧ x.2.resolution = y.2.resolution) ∧
      ∀ x ∈ t.walk, x.2.license.isSome →
        ∃ part ∈ Report.sections t, Report.section? x.2 = some part := by
  refine ⟨cache_le_build b root depth s, ?_, ?_⟩
  · intro levels path parent r v e kept f w visited
    have run := Build.expands_visit b levels path parent r v
    rw [visited] at run
    exact run.find?_of_error rfl kept
  · intro t built
    have kept := upheld_of_reachable (Build.consistent b) reachable
    obtain ⟨-, good⟩ := (upheld_build (Build.consistent b) kept root depth).2 t built
    have shown := t.forall_walk.mpr fun m hm => (good m hm).2
    have same : ∀ x ∈ t.walk, ∀ y ∈ t.walk, x.2.license.isSome → y.2.license.isSome →
        x.2.id = y.2.id → x.2.license = y.2.license ∧ x.2.resolution = y.2.resolution := by
      intro x hx y hy licensed licensed' id
      obtain ⟨e, kept, license, resolution, -⟩ := shown x hx licensed
      obtain ⟨e', kept', license', resolution', -⟩ := shown y hy licensed'
      rw [id, kept'] at kept
      cases kept
      exact ⟨license.symm.trans license', resolution.symm.trans resolution'⟩
    refine ⟨same, fun x hx licensed => ?_⟩
    have nodes {m : Node} : m ∈ Node.nodes t.root.dependencies ↔ ∃ y ∈ t.walk, y.2 = m := by
      rw [← t.walk_nodes, List.mem_map]
    refine Tree.section_mem licensed (nodes.mpr ⟨x, hx, rfl⟩) fun m hm licensed' id => ?_
    obtain ⟨y, hy, rfl⟩ := nodes.mp hm
    exact (same y hy x hx licensed' licensed id).1

/-- A module that is expanded further keeps its license. -/
theorem constant_of_build_ragged :
    ∃ old new, (raggedBuild 1 (.fresh ())).2.cache.find? "a@v1" = some old ∧
      (raggedBuild 2 (raggedBuild 1 (.fresh ())).2).2.cache.find? "a@v1" = some new ∧
      old.levels = 1 ∧ new.levels = 2 ∧ new.node.license = old.node.license := by
  have before : ((raggedBuild 1 (.fresh ())).2.cache.find? "a@v1").map (·.levels) = some 1 := by
    decide +kernel
  have after : ((raggedBuild 2 (raggedBuild 1 (.fresh ())).2).2.cache.find? "a@v1").map (·.levels) =
      some 2 := by decide +kernel
  obtain ⟨old, kept, levels⟩ := Option.map_eq_some_iff.mp before
  have reachable : ragged.Reachable (fun _ => True) (raggedBuild 1 (.fresh ())).2 :=
    .build 1 (.fresh ()) trivial
  obtain ⟨le, -⟩ := constant_of_build reachable (Chart.manifest "m" ["a"]) 2
  obtain ⟨new, kept', grown⟩ := le _ _ kept
  refine ⟨old, new, kept, kept', levels, ?_, grown.license⟩
  have found : (raggedBuild 2 (raggedBuild 1 (.fresh ())).2).2.cache.find? "a@v1" = some new := kept'
  rw [found] at after
  exact Option.some.inj after

end Builder

end Attribution

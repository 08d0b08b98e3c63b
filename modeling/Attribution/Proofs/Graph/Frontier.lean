import Attribution.Proofs.Graph.Complete
import Attribution.Proofs.Graph.Shape

/-!
Where unexpanded nodes stand. A kept module is expanded at least as far as it is kept, and a tree at
least to its depth: nothing above that is left unexpanded, in either mode, whatever cycles there are
and whatever happened before.
-/

namespace Attribution

variable {σ : Type}

namespace Node

/-- For so many levels, no node is left unexpanded. -/
def Pursued : Nat → Node → Prop
  | 0, _ => True
  | k + 1, n => n.resolution ≠ .unexpanded ∧ ∀ m ∈ n.dependencies, m.Pursued k

variable {k less depth : Nat} {n : Node}

theorem Pursued.anti (pursued : n.Pursued k) (fewer : less ≤ k) : n.Pursued less := by
  induction less generalizing n k with
  | zero => trivial
  | succ less ih =>
      obtain ⟨k, rfl⟩ : ∃ j, k = j + 1 := ⟨k - 1, by omega⟩
      obtain ⟨here, below⟩ := pursued
      exact ⟨here, fun m hm => ih (below m hm) (Nat.le_of_succ_le_succ fewer)⟩

theorem pursued_of_alone (here : n.resolution ≠ .unexpanded) (alone : n.dependencies = []) :
    n.Pursued (k + 1) := by
  refine ⟨here, ?_⟩
  rw [alone]
  nofun

theorem Shaped.ne_unexpanded (shaped : n.Shaped) (licensed : n.license.isSome) :
    n.resolution ≠ .unexpanded := by
  intro unexpanded
  have resolution := shaped.resolution licensed
  rw [unexpanded] at resolution
  exact absurd resolution (by decide)

theorem Pursued.depth_le (pursued : n.Pursued k) {place : Nat × Node}
    (within : place ∈ preorder depth n) (bare : place.2.resolution = .unexpanded) :
    depth + k ≤ place.1 := by
  induction k generalizing depth n with
  | zero => exact le_of_mem_preorder within
  | succ k ih =>
      obtain ⟨here, below⟩ := pursued
      cases mem_preorder.mp within with
      | inl top =>
          subst top
          exact absurd bare here
      | inr lower =>
          obtain ⟨m, hm, within⟩ := lower
          have deep := ih (below m hm) within
          omega

end Node

namespace Cache

/-- Every entry is expanded as far as it is kept. -/
def Pursued (c : Cache) : Prop :=
  ∀ entry ∈ c.entries, entry.2.node.Pursued entry.2.levels.toNat

theorem Pursued.store {c : Cache} {node : Node} {n : Nat} {manifest : Option PlacedManifest}
    (pursued : c.Pursued) (here : node.Pursued n) : (c.store ⟨node, n, manifest⟩).Pursued :=
  forall_store pursued here

end Cache

namespace Build

variable {b : Builder σ} {parent : PlacedManifest} {r : Requirement} {path : List ModuleId}
  {s t : BuildState σ} {n : Nat}

theorem Opens.pursued_of_done {node : Node} (opens : Opens b parent r path s n (.done (.ok node)) t)
    (formed : s.cache.Formed b.lenient) (pursued : s.cache.Pursued) :
    t.cache.Pursued ∧ node.Pursued n := by
  have shaped := (Node.throughout_iff.mp (opens.formed_of_done formed).2).1.1
  cases opens with
  | bare => exact ⟨pursued, trivial⟩
  | cycle => exact ⟨pursued, Node.pursued_of_alone nofun rfl⟩
  | @shared k e new hit enough =>
      have kept := Cache.mem_of_find? hit
      have sound := (formed _ kept).1
      have here := shaped.ne_unexpanded sound.license
      cases enough with
      | inl unread => exact ⟨pursued, Node.pursued_of_alone here (sound.alone unread)⟩
      | inr far =>
          have expanded : e.node.Pursued (k + 1) := (pursued _ kept).anti (by simp only; omega)
          exact ⟨pursued, here, expanded.2⟩
  | @search n _ _ new miss settled =>
      obtain ⟨-, ⟨f, ok, -⟩ | ⟨l, resolution, ok, cache⟩⟩ := settled.of_done
      · cases ok
      · cases ok
        have here := Node.pursued_of_alone (k := n) (shaped.ne_unexpanded rfl) rfl
        rw [cache]
        exact ⟨pursued.store here, here⟩

/-- Every build keeps modules, and hands back nodes, that are expanded as far as there are levels. -/
theorem pursued (b : Builder σ) : Upholds b (fun c => c.Formed b.lenient ∧ c.Pursued)
    fun _ n node => node.Throughout (Node.Formed b.lenient) ∧ node.Pursued n := by
  apply (formed b).extend
  case empty => exact nofun
  case grow =>
    intro c c' n node _ pursued
    exact pursued
  case done =>
    intro parent r path s t n node opens formed pursued
    exact opens.pursued_of_done formed pursued
  case finish =>
    intro parent r path s t u n d ns opens below formed _ pursued children
    obtain ⟨⟨shaped, -⟩, licensed, -⟩ := opens.formed_of_expand formed ns
    have here : (d.node r ns).Pursued (n + 1) := ⟨shaped.ne_unexpanded licensed, children⟩
    exact ⟨Draft.finish_induction (pursued.store here) pursued, here⟩

end Build

namespace Builder

/-- After any history of builds, a kept module is expanded as far as it is kept. -/
theorem levels_le_of_unexpanded {b : Builder σ} {roots : PlacedManifest → Prop} {s : BuildState σ}
    (reachable : b.Reachable roots s) {entry : ModuleId × Cache.Entry}
    (kept : entry ∈ s.cache.entries) {place : Nat × Node}
    (within : place ∈ Node.preorder 0 entry.2.node) (bare : place.2.resolution = .unexpanded) :
    entry.2.levels ≤ place.1 := by
  obtain ⟨-, pursued⟩ := upheld_of_reachable (Build.pursued b) reachable
  have deep := (pursued entry kept).depth_le within bare
  omega

/-- After any history of builds, a tree that is returned is expanded to its depth. -/
theorem lt_of_unexpanded {b : Builder σ} {roots : PlacedManifest → Prop} {s : BuildState σ}
    (reachable : b.Reachable roots s) {root : PlacedManifest} {depth : Int} {t : Tree}
    (built : (b.build root depth s).1 = .ok t) {place : Nat × Node} (met : place ∈ t.walk)
    (bare : place.2.resolution = .unexpanded) : depth < place.1 := by
  have kept := upheld_of_reachable (Build.pursued b) reachable
  obtain ⟨-, good⟩ := (upheld_build (Build.pursued b) kept root depth).2 t built
  rw [t.walk_eq, Node.preorders_eq] at met
  obtain ⟨n, hn, within⟩ := List.mem_flatMap.mp met
  have deep := (good n hn).2.depth_le within bare
  omega

/-- After any history of builds, no node is left unexpanded fewer levels below a kept module than it
is kept with; and a tree that is returned leaves none unexpanded within its depth. -/
theorem unexpanded_of_build {b : Builder σ} {roots : PlacedManifest → Prop} {s : BuildState σ}
    (reachable : b.Reachable roots s) :
    (∀ entry ∈ s.cache.entries, ∀ place ∈ Node.preorder 0 entry.2.node,
      place.2.resolution = .unexpanded → entry.2.levels ≤ place.1) ∧
    ∀ root depth t, (b.build root depth s).1 = .ok t →
      ∀ place ∈ t.walk, place.2.resolution = .unexpanded → depth + 1 ≤ place.1 := by
  constructor
  · intro entry kept place within bare
    exact levels_le_of_unexpanded reachable kept within bare
  · intro root depth t built place met bare
    exact lt_of_unexpanded reachable built met bare

/-- A lenient build in the winding graph to the depth of its cycle, after one that left most of it
unexpanded. -/
def rewoundBuild : Except Failure Tree × BuildState Unit :=
  (winding.builder true).build (Chart.manifest "m" ["a", "c"]) 3
    ((winding.builder true).build (Chart.manifest "m" ["a", "c"]) 1 (.fresh ())).2

/-- The cycle is left open where the levels end on one way, and closed on the other. -/
theorem unexpanded_of_build_rewound :
    ∃ t, rewoundBuild.1 = .ok t ∧
      t.walk.map (fun place => (place.1, place.2.resolution)) =
        [(1, .resolved), (2, .resolved), (3, .resolved), (4, .unexpanded), (1, .resolved),
          (2, .resolved), (3, .cycle)] ∧
      ∀ place ∈ t.walk, place.2.resolution = .unexpanded → 4 ≤ (place.1 : Int) := by
  have outline : rewoundBuild.1.toOption.map (fun t =>
      t.walk.map fun place => (place.1, place.2.resolution)) =
        some [(1, .resolved), (2, .resolved), (3, .resolved), (4, .unexpanded), (1, .resolved),
          (2, .resolved), (3, .cycle)] := by decide +kernel
  obtain ⟨t, built, outline⟩ := exists_ok_of_map outline
  have reachable : (winding.builder true).Reachable (fun _ => True)
      ((winding.builder true).build (Chart.manifest "m" ["a", "c"]) 1 (.fresh ())).2 :=
    .build 1 (.fresh ()) trivial
  obtain ⟨-, trees⟩ := unexpanded_of_build reachable
  exact ⟨t, built, outline, trees _ 3 t built⟩

end Builder

end Attribution

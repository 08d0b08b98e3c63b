import Attribution.Proofs.Graph.Overrun

/-!
How far the tree of a build goes. A module that is met again further from the root than it was
expanded brings all that was expanded below it, so the tree goes further there than the depth asks
for. Nothing else takes it beyond the depth.
-/

namespace Attribution

variable {σ : Type}

namespace Cache

/-- With so many levels left below a node, a module that is kept with more levels than are left for
it is met among them. -/
def Exceeds (c : Cache) : Nat → Node → Prop
  | 0, _ => False
  | k + 1, n =>
    (∃ e, c.find? n.id = some e ∧ (k + 1 : Nat) < e.levels) ∨ ∃ m ∈ n.dependencies, c.Exceeds k m

/-- What is below a node stays within its levels, unless it was expanded further elsewhere. -/
def Fits (c : Cache) (k : Nat) (n : Node) : Prop := n.Within k ∨ c.Exceeds k n

section
variable {c c' : Cache} {k : Nat} {m n : Node}

theorem Exceeds.grow (exceeds : c.Exceeds k n) (le : c.LE c') : c'.Exceeds k n := by
  induction k generalizing n with
  | zero => exact exceeds
  | succ k ih =>
      cases exceeds with
      | inl here =>
          obtain ⟨e, kept, further⟩ := here
          obtain ⟨e', kept', grown⟩ := le n.id e kept
          exact .inl ⟨e', kept', Int.lt_of_lt_of_le further grown.levels⟩
      | inr below =>
          obtain ⟨m, hm, below⟩ := below
          exact .inr ⟨m, hm, ih below⟩

theorem Fits.grow (fits : c.Fits k n) (le : c.LE c') : c'.Fits k n := fits.imp_right (·.grow le)

theorem Fits.congr (fits : c.Fits (k + 1) m) (id : m.id = n.id)
    (below : m.dependencies = n.dependencies) : c.Fits (k + 1) n := by
  simpa only [Fits, Node.Within, Exceeds, id, below] using fits

theorem Fits.of_alone (alone : n.dependencies = []) : c.Fits (k + 1) n :=
  .inl (Node.within_of_alone alone k)

theorem Fits.of_dependencies (fits : ∀ m ∈ n.dependencies, c.Fits k m) : c.Fits (k + 1) n := by
  by_cases exceeds : ∃ m ∈ n.dependencies, c.Exceeds k m
  · exact .inr (.inr exceeds)
  · left
    intro m hm
    exact (fits m hm).resolve_right fun further => exceeds ⟨m, hm, further⟩

/-- Such a module has a place in the tree. -/
theorem Exceeds.exists_place (exceeds : c.Exceeds k n) (depth : Nat) :
    ∃ place ∈ Node.preorder depth n, place.1 < depth + k ∧
      ∃ e, c.find? place.2.id = some e ∧ (depth + k : Nat) < place.1 + e.levels := by
  induction k generalizing n depth with
  | zero => exact exceeds.elim
  | succ k ih =>
      cases exceeds with
      | inl here =>
          obtain ⟨e, kept, further⟩ := here
          have deeper : ((depth + (k + 1) : Nat) : Int) < depth + e.levels := by omega
          exact ⟨_, Node.self_mem_preorder n depth, by simp, e, kept, deeper⟩
      | inr below =>
          obtain ⟨m, hm, below⟩ := below
          obtain ⟨place, within, higher, e, kept, further⟩ := ih below (depth + 1)
          have level : depth + 1 + k = depth + (k + 1) := by omega
          rw [level] at higher further
          exact ⟨place, Node.mem_preorder.mpr (.inr ⟨m, hm, within⟩), higher, e, kept, further⟩

end

/-- All that is kept fits into the levels it is kept with. -/
def Fitting (c : Cache) : Prop := ∀ id e, c.find? id = some e → c.Fits e.levels.toNat e.node

theorem Fitting.store {c : Cache} {node : Node} {n : Nat} {manifest : Option PlacedManifest}
    (fitting : c.Fitting) (le : c.LE (c.store ⟨node, n, manifest⟩)) (fits : c.Fits n node) :
    (c.store ⟨node, n, manifest⟩).Fitting := by
  intro id e kept
  cases find?_of_store kept with
  | inl new =>
      obtain ⟨-, rfl⟩ := new
      exact fits.grow le
  | inr old => exact (fitting id e old).grow le

end Cache

namespace Build

variable {b : Builder σ} {parent : PlacedManifest} {r : Requirement} {path : List ModuleId}
  {s t u : BuildState σ} {n : Nat}

theorem Opens.fits_of_done {node : Node} (opens : Opens b parent r path s n (.done (.ok node)) t)
    (formed : s.cache.Formed b.lenient) (fitting : s.cache.Fitting) :
    t.cache.Fitting ∧ t.cache.Fits n node := by
  have le := opens.cache_le
  cases opens with
  | bare => exact ⟨fitting, .inl ⟨rfl, rfl⟩⟩
  | cycle => exact ⟨fitting, .of_alone rfl⟩
  | @shared k e new hit enough =>
      refine ⟨fitting, ?_⟩
      have sound := (formed _ (Cache.mem_of_find? hit)).1
      cases enough with
      | inl unread => exact .of_alone (sound.alone unread)
      | inr far =>
          by_cases further : (k + 1 : Nat) < e.levels
          · exact .inr (.inl ⟨e, hit, further⟩)
          · have level : e.levels.toNat = k + 1 := by omega
            have fits := fitting _ e hit
            rw [level] at fits
            exact fits.congr sound.same rfl
  | search new miss settled =>
      obtain ⟨-, ⟨f, ok, -⟩ | ⟨l, resolution, ok, cache⟩⟩ := settled.of_done
      · cases ok
      · cases ok
        rw [cache] at le ⊢
        exact ⟨fitting.store le (.of_alone rfl), .of_alone rfl⟩

theorem fits (b : Builder σ) :
    Upholds b (fun c => c.Formed b.lenient ∧ c.Fitting)
      fun c n node => node.Throughout (Node.Formed b.lenient) ∧ c.Fits n node := by
  apply (formed b).extend
  case empty => exact nofun
  case grow =>
    intro c c' n node le fits
    exact fits.grow le
  case done =>
    intro parent r path s t n node opens formed fitting
    exact opens.fits_of_done formed fitting
  case finish =>
    intro parent r path s t u n d ns opens below _ _ fitting fits
    have here : u.cache.Fits (n + 1) (d.node r ns) := .of_dependencies fits
    have le := opens.finish_le (opens.find?_below below) ns
    refine ⟨?_, here.grow le⟩
    exact opens.finish_induction (opens.find?_below below) (fun le => fitting.store le here) fitting

end Build

namespace Builder

/-- The tree of a build goes beyond the depth nowhere but below a module that is kept with more levels
than are left where it stands, after whatever history. If the builder is strict and starts with
nothing, and its resolver goes by the module, that happens just when a route goes on beyond the depth
from a module that a shorter route, taken before, leads to. -/
theorem bounded_of_build (b : Builder σ) (root : PlacedManifest) (depth : Nat) :
    (∀ roots s, b.Reachable roots s → ∀ t, (b.build root depth s).1 = .ok t →
      t.Bounded depth ∨ ∃ place ∈ t.walk, place.1 ≤ depth ∧
        ∃ e, (b.build root depth s).2.cache.find? place.2.id = some e ∧
          (depth + 1 : Nat) < place.1 + e.levels) ∧
    (b.lenient = false → ∀ answer, (b.Answers fun r => answer r.id) →
      ∀ world t, (b.build root depth (.fresh world)).1 = .ok t →
        (t.Bounded depth ↔ ¬ Route.Overreaches (b.needs answer) root.requirements depth)) := by
  constructor
  · intro roots s reachable t built
    have kept := upheld_of_reachable (Build.fits b) reachable
    obtain ⟨-, good⟩ := (upheld_build (Build.fits b) kept root depth).2 t built
    by_cases within : ∀ n ∈ t.root.dependencies, n.Within depth
    · exact .inl (Tree.bounded_iff.mpr within)
    · right
      obtain ⟨n, hn, beyond⟩ : ∃ n ∈ t.root.dependencies, ¬ n.Within depth :=
        Classical.byContradiction fun none => within fun n hn =>
          Classical.byContradiction fun beyond => none ⟨n, hn, beyond⟩
      have exceeds := (good n hn).2.resolve_left beyond
      obtain ⟨place, below, higher, e, found, further⟩ := exceeds.exists_place 1
      refine ⟨place, ?_, by simp at higher; omega, e, found, by simp at further; omega⟩
      rw [t.walk_eq, Node.preorders_eq]
      exact List.mem_flatMap.mpr ⟨n, hn, below⟩
  · intro strict answer answers world t built
    obtain ⟨o, u, run, result⟩ := b.expands_build root depth (.fresh world)
    rw [result] at built
    generalize start : (BuildState.fresh world).told _ _ = s at run
    have empty (id) : s.cache.find? id = none := by rw [← start]; rfl
    have steady : Build.Steady b answer [] depth s.cache := by
      rw [← start]
      exact ⟨nofun, nofun, nofun, nofun⟩
    have snug : Build.Snug s.cache := by
      intro id e kept
      rw [empty] at kept
      cases kept
    cases o with
    | error f => cases built
    | ok ns =>
        cases built
        rw [← Build.overruns_iff empty, Tree.bounded_iff]
        constructor
        · rintro within ⟨route, onward, overruns⟩
          obtain ⟨m, hm, beyond⟩ := run.not_within answers strict rfl rfl steady overruns
          exact beyond (within m hm)
        · intro none
          obtain ⟨-, within⟩ | overruns := run.within_or_overruns answers strict rfl rfl steady snug
          · exact within
          · exact absurd overruns none

/-- A module that the root requires is required below another one too, and goes on for two more. -/
def stretched : Chart := fun id =>
  if id = "a@v1" then ["x"] else if id = "x@v1" then ["y"] else if id = "y@v1" then ["z"] else []

/-- What a strict build of the stretched graph comes to, two levels below a root that requires these
paths. -/
def stretchedBuild (paths : List String) : Except Failure Tree × BuildState Unit :=
  (stretched.builder false).build (Chart.manifest "m" paths) 2 (.fresh ())

/-- Met at the root first, the module is taken below the other one with all that was expanded below it
there, to more levels than are left. -/
theorem bounded_of_build_stretched :
    ∃ t, (stretchedBuild ["x", "a"]).1 = .ok t ∧ ¬ t.Bounded 2 ∧
      ∃ place ∈ t.walk, place.1 ≤ 2 ∧
        ∃ e, (stretchedBuild ["x", "a"]).2.cache.find? place.2.id = some e ∧
          3 < place.1 + e.levels := by
  have succeeds : (stretchedBuild ["x", "a"]).1.isOk := by decide +kernel
  have overreaches : Route.Overreaches ((stretched.builder false).needs stretched.content)
      (Chart.manifest "m" ["x", "a"]).requirements 2 := by
    refine ⟨[1, 0], [0], Chart.requirement "x", by decide, rfl, rfl, by decide, ?_, ?_⟩
    · exact ⟨[0], Chart.requirement "x", .rel Nat.zero_lt_one, by decide, by decide, rfl, rfl⟩
    · intro earlier prior proper
      obtain rfl | ⟨second, rfl, prior₂⟩ := List.prefix_cons_iff.mp prior
      · exact Route.leading_nil
      · obtain rfl | ⟨third, rfl, prior₃⟩ := List.prefix_cons_iff.mp prior₂
        · -- The other requirement of the root is of another module.
          refine Route.leading_head.before fun inner q p short hq hp => ?_
          obtain rfl := List.length_eq_zero_iff.mp (Nat.le_zero.mp short)
          cases hq
          cases hp
          decide
        · exact absurd (by rw [List.prefix_nil.mp prior₃]) proper
  cases built : (stretchedBuild ["x", "a"]).1 with
  | error f =>
      rw [built] at succeeds
      cases succeeds
  | ok t =>
      obtain ⟨anywhere, fresh⟩ :=
        bounded_of_build (stretched.builder false) (Chart.manifest "m" ["x", "a"]) 2
      have same : (stretched.builder false).build (Chart.manifest "m" ["x", "a"]) (2 : Nat)
          (.fresh ()) = stretchedBuild ["x", "a"] := rfl
      have beyond : ¬ t.Bounded 2 := fun bounded =>
        (fresh rfl stretched.content (stretched.builder_answers false) () t (same ▸ built)).mp
          bounded overreaches
      have further := (anywhere (fun _ => True) _ (.fresh ()) t (same ▸ built)).resolve_left beyond
      rw [same] at further
      exact ⟨t, rfl, beyond, further⟩

/-- The walk through that tree meets a licensed module one level beyond the depth, and another module
below it. -/
theorem stretched_beyond :
    ∃ t, (stretchedBuild ["x", "a"]).1 = .ok t ∧ ¬ t.Bounded 2 ∧
      t.walk.map (fun place => (place.1, place.2.id, place.2.license.isSome)) =
        [(1, "x@v1", true), (2, "y@v1", true), (3, "z@v1", false), (1, "a@v1", true),
          (2, "x@v1", true), (3, "y@v1", true), (4, "z@v1", false)] := by
  have walk : (stretchedBuild ["x", "a"]).1.toOption.map (fun t =>
      t.walk.map fun place => (place.1, place.2.id, place.2.license.isSome)) =
        some [(1, "x@v1", true), (2, "y@v1", true), (3, "z@v1", false), (1, "a@v1", true),
          (2, "x@v1", true), (3, "y@v1", true), (4, "z@v1", false)] := by decide +kernel
  obtain ⟨t, built, outline⟩ := Option.map_eq_some_iff.mp walk
  refine ⟨t, ?_, fun bounded => ?_, outline⟩
  · cases result : (stretchedBuild ["x", "a"]).1 with
    | error f =>
        rw [result] at built
        cases built
    | ok t' =>
        rw [result] at built
        exact congrArg Except.ok (Option.some.inj built)
  · have last : (4, "z@v1", false) ∈
        t.walk.map fun place => (place.1, place.2.id, place.2.license.isSome) := by
      rw [outline]
      decide
    obtain ⟨place, met, deep⟩ := List.mem_map.mp last
    have fits : place.1 ≤ 3 := (bounded place met).1
    have depth : place.1 = 4 := congrArg Prod.fst deep
    omega

end Builder

end Attribution

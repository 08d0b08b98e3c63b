import Attribution.Proofs.Graph.Encounter

/-!
What every step of a build upholds, every build upholds, whatever happened before and however it
ends. There are two sides to it: what is true of the kept modules, and what is true of the nodes that
a run hands back. A run that fails hands back nothing, but what it kept has to be as sound as before.
-/

namespace Attribution

variable {σ : Type}

namespace Build

variable {b : Builder σ} {parent : PlacedManifest} {r : Requirement} {path : List ModuleId}
  {s t u : BuildState σ} {n : Nat} {rs : List Requirement} {o : Except Failure (List Node)}

/-- What the steps of a builder uphold: `Kept` of its cache, and `Good` of the nodes that are made with
so many levels left. -/
structure Upholds (b : Builder σ) (Kept : Cache → Prop)
    (Good : Cache → Nat → Node → Prop) : Prop where
  empty : Kept .empty
  grow {c c' : Cache} {n : Nat} {node : Node} (le : c.LE c') (good : Good c n node) : Good c' n node
  done {parent : PlacedManifest} {r : Requirement} {path : List ModuleId} {s t : BuildState σ}
    {n : Nat} {node : Node} (opens : Opens b parent r path s n (.done (.ok node)) t)
    (kept : Kept s.cache) : Kept t.cache ∧ Good t.cache n node
  finish {parent : PlacedManifest} {r : Requirement} {path : List ModuleId} {s t u : BuildState σ}
    {n : Nat} {d : Draft} {ns : List Node} (opens : Opens b parent r path s (n + 1) (.expand d) t)
    (below : Expands b n (path ++ [r.id]) d.manifest d.manifest.requirements t (.ok ns) u)
    (before : Kept s.cache) (kept : Kept u.cache) (good : ∀ m ∈ ns, Good u.cache n m) :
    Kept (d.finish (n + 1) r ns u).cache ∧
      Good (d.finish (n + 1) r ns u).cache (n + 1) (d.node r ns)

variable {Kept : Cache → Prop} {Good : Cache → Nat → Node → Prop}

theorem Upholds.run (upholds : Upholds b Kept Good) (run : Expands b n path parent rs s o t)
    (kept : Kept s.cache) :
    Kept t.cache ∧ ∀ ns, o = .ok ns → ∀ m ∈ ns, Good t.cache n m := by
  obtain ⟨trail, along⟩ := Trail.exists_ids path parent
  refine run.upheld along upholds.grow (fun x _ => upholds.done) ?_ kept
  intro x _ m d ns v w _ opens below before inside good
  exact upholds.finish opens below before inside good

/-- What steps uphold may be built on when it is shown what else they uphold. -/
theorem Upholds.extend {Kept' : Cache → Prop} {Good' : Cache → Nat → Node → Prop}
    (upholds : Upholds b Kept Good) (empty : Kept' .empty)
    (grow : ∀ {c c' n node}, c.LE c' → Good' c n node → Good' c' n node)
    (done : ∀ {parent r path s t n node}, Opens b parent r path s n (.done (.ok node)) t →
      Kept s.cache → Kept' s.cache → Kept' t.cache ∧ Good' t.cache n node)
    (finish : ∀ {parent r path s t u n d ns}, Opens b parent r path s (n + 1) (.expand d) t →
      Expands b n (path ++ [r.id]) d.manifest d.manifest.requirements t (.ok ns) u →
      Kept s.cache → Kept' s.cache → Kept' u.cache → (∀ m ∈ ns, Good' u.cache n m) →
      Kept' (d.finish (n + 1) r ns u).cache ∧
        Good' (d.finish (n + 1) r ns u).cache (n + 1) (d.node r ns)) :
    Upholds b (fun c => Kept c ∧ Kept' c) fun c n node => Good c n node ∧ Good' c n node where
  empty := ⟨upholds.empty, empty⟩
  grow le good := ⟨upholds.grow le good.1, grow le good.2⟩
  done opens kept := by
    obtain ⟨first, good⟩ := upholds.done opens kept.1
    obtain ⟨second, good'⟩ := done opens kept.1 kept.2
    exact ⟨⟨first, second⟩, good, good'⟩
  finish opens below before kept good := by
    obtain ⟨first, here⟩ := upholds.finish opens below before.1 kept.1 fun m hm => (good m hm).1
    obtain ⟨second, here'⟩ := finish opens below before.1 before.2 kept.2 fun m hm => (good m hm).2
    exact ⟨⟨first, second⟩, here, here'⟩

end Build

namespace Builder

variable {b : Builder σ} {Kept : Cache → Prop} {Good : Cache → Nat → Node → Prop}

/-- One build upholds what its steps uphold. -/
theorem upheld_build (upholds : Build.Upholds b Kept Good) {s : BuildState σ} (kept : Kept s.cache)
    (root : PlacedManifest) (depth : Int) :
    Kept (b.build root depth s).2.cache ∧ ∀ t, (b.build root depth s).1 = .ok t →
      t.root.dependencies.map Node.requirement = root.requirements ∧
      ∀ m ∈ t.root.dependencies, Good (b.build root depth s).2.cache depth.toNat m := by
  obtain ⟨-, refused⟩ | ⟨n, o, u, rfl, run, result⟩ := b.build_cases root depth s
  · rw [refused]
    exact ⟨kept, nofun⟩
  · obtain ⟨kept, good⟩ := upholds.run run kept
    rw [result, closed_cache]
    refine ⟨kept, fun t built => ?_⟩
    cases o with
    | error f => cases built
    | ok ns =>
        cases built
        exact ⟨run.requirements_eq rfl, good ns rfl⟩

/-- Any history of builds and of clearings of the cache upholds what the steps uphold. -/
theorem upheld_of_reachable (upholds : Build.Upholds b Kept Good) {roots : PlacedManifest → Prop}
    {s : BuildState σ} (reachable : b.Reachable roots s) : Kept s.cache := by
  induction reachable with
  | fresh world => exact upholds.empty
  | build depth before given ih => exact (upheld_build upholds ih _ depth).1
  | forget before ih => exact upholds.empty

end Builder

end Attribution

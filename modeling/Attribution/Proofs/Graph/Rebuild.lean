import Mathlib.Data.List.Forall2
import Attribution.Proofs.Graph.Determinism
import Attribution.Proofs.Graph.Shape

/-!
Builds that are repeated. A module that is kept with enough levels, or that nothing hangs on, is handed
out as it is kept, and runs with no more levels leave it so. What a build hands back for its root is
therefore what it leaves kept, and the same build comes to the same tree again without any question.
-/

namespace Attribution

variable {σ : Type}

namespace Cache

/-- With so many levels left, nothing more is to be found below a kept module. -/
def Entry.Spent (e : Entry) (levels : Nat) : Prop :=
  e.manifest = none ∨ levels ≤ e.levels ∨ e.required = [] ∧ e.node.dependencies = []

theorem Entry.Spent.anti {e : Entry} {levels less : Nat} (spent : e.Spent levels)
    (fewer : less ≤ levels) : e.Spent less :=
  spent.imp_right fun enough => enough.imp_left fun far => by omega

/-- What a requirement is given of a kept module. -/
def Entry.answer (e : Entry) (r : Requirement) : Node :=
  ⟨r.version, r.replacement, e.node.license, e.node.dependencies, e.node.resolution⟩

/-- With so many levels left, the node is all there is for the requirement: nothing is looked into. -/
def Serves (c : Cache) : Nat → Requirement → Node → Prop
  | 0, r, node => node = .bare r .unexpanded
  | n + 1, r, node => ∃ e, c.find? r.id = some e ∧ e.Spent (n + 1) ∧ node = e.answer r

end Cache

theorem Draft.finish_idle {d : Draft} (former : d.former = some []) (levels : Nat) (r : Requirement)
    (s : BuildState σ) : d.finish levels r [] s = s := by
  simp [finish, former]

/-- From one state to the other no collaborator was called, and nothing was kept. -/
structure BuildState.Undisturbed (s t : BuildState σ) : Prop where
  world : t.world = s.world
  cache : t.cache = s.cache
  asked : t.asked = s.asked
  labelled : t.labelled = s.labelled

namespace BuildState

theorem undisturbed_told (s : BuildState σ) (level : LogLevel) (text : String) :
    s.Undisturbed (s.told level text) := ⟨rfl, rfl, rfl, rfl⟩

theorem undisturbed_counted (s : BuildState σ) (f : Stats → Stats) :
    s.Undisturbed (s.counted f) := ⟨rfl, rfl, rfl, rfl⟩

theorem Undisturbed.trans {s t u : BuildState σ} (first : s.Undisturbed t)
    (second : t.Undisturbed u) : s.Undisturbed u :=
  ⟨second.world.trans first.world, second.cache.trans first.cache,
    second.asked.trans first.asked, second.labelled.trans first.labelled⟩

theorem undisturbed_hit (s : BuildState σ) (r : Requirement) :
    s.Undisturbed ((s.entered r).counted fun c => { c with cacheHits := c.cacheHits + 1 }) :=
  (s.undisturbed_told _ _).trans (undisturbed_counted _ _)

end BuildState

namespace Build

variable {b : Builder σ} {parent : PlacedManifest} {r : Requirement} {path : List ModuleId}
  {s t u : BuildState σ} {n : Nat} {rs : List Requirement} {o : Except Failure (List Node)}

theorem Opens.find?_of_done {o : Except Failure Node} {id : ModuleId} {e : Cache.Entry}
    (opens : Opens b parent r path s n (.done o) t) (kept : s.cache.find? id = some e) :
    t.cache.find? id = some e := by
  obtain ⟨cache, -⟩ | ⟨-, miss, -, ⟨f, -, cache⟩ | ⟨l, resolution, -, cache⟩⟩ := opens.of_done
  · rw [cache, kept]
  · rw [cache, kept]
  · rw [cache, Cache.find?_store, if_neg, kept]
    rintro rfl
    exact nomatch miss.symm.trans kept

/-- A module that is spent is looked into only if there is nothing to see. -/
theorem Opens.idle_of_spent {d : Draft} {e : Cache.Entry}
    (opens : Opens b parent r path s n (.expand d) t) (kept : s.cache.find? r.id = some e)
    (spent : e.Spent n) : d.manifest.requirements = [] ∧ d.former = some [] := by
  obtain ⟨-, -, ⟨miss, -⟩ | ⟨old, hit, -, few, known, -, -, former⟩⟩ := opens.of_expand
  · exact nomatch miss.symm.trans kept
  · obtain rfl := Option.some.inj (hit.symm.trans kept)
    obtain unread | far | ⟨none, alone⟩ := spent
    · exact nomatch unread.symm.trans known
    · exact absurd far (Int.not_le.mpr few)
    · exact ⟨(Cache.Entry.required_of_known known).symm.trans none,
        former.trans (congrArg some alone)⟩

/-- A run with no more levels leaves a module that is spent as it is kept, however it ends. -/
theorem Expands.find?_of_spent {id : ModuleId} {e : Cache.Entry}
    (run : Expands b n path parent rs s o t) (kept : s.cache.find? id = some e)
    (spent : e.Spent n) : t.cache.find? id = some e := by
  induction run with
  | nil => exact kept
  | halt opens => exact opens.find?_of_done kept
  | pass opens after ih => exact ih (opens.find?_of_done kept) spent
  | sink opens below ih =>
      rw [← opens.of_expand.1] at kept
      exact ih kept (spent.anti (Nat.le_succ _))
  | @rise n path parent r rest s t u v d ns o opens below after ihBelow ihAfter =>
      have entered : t.cache.find? id = some e := by rw [opens.of_expand.1, kept]
      have inside := ihBelow entered (spent.anti (Nat.le_succ _))
      refine ihAfter ?_ spent
      by_cases here : id = r.id
      · -- The module itself is looked into again only if it requires nothing, and is kept as it was.
        subst here
        obtain ⟨none, former⟩ := opens.idle_of_spent kept spent
        have alone : ns = [] := List.map_eq_nil_iff.mp ((below.requirements_eq rfl).trans none)
        rw [alone, Draft.finish_idle former, inside]
      · rw [find?_finish_of_ne here, inside]

theorem Expands.serves_of_serves {q : Requirement} {node : Node}
    (run : Expands b n path parent rs s o t) (served : s.cache.Serves n q node) :
    t.cache.Serves n q node := by
  cases n with
  | zero => exact served
  | succ n =>
      obtain ⟨e, kept, spent, same⟩ := served
      exact ⟨e, run.find?_of_spent kept spent, spent, same⟩

/-- What is done with at once, but for a cycle, is kept so. -/
theorem Opens.serves_of_done {node : Node} (opens : Opens b parent r path s n (.done (.ok node)) t)
    (new : r.id ∉ path) : t.cache.Serves n r node := by
  cases opens with
  | bare => exact rfl
  | cycle again => exact absurd again new
  | shared _ hit enough => exact ⟨_, hit, enough.imp_right .inl, rfl⟩
  | search _ miss settled =>
      obtain ⟨-, ⟨f, ok, -⟩ | ⟨l, resolution, ok, cache⟩⟩ := settled.of_done
      · cases ok
      · cases ok
        rw [cache]
        exact ⟨_, Cache.find?_store_self _ _, .inl rfl, rfl⟩

/-- What was looked into is kept with what was found below it, or was kept without anything. -/
theorem Opens.serves_of_finish {d : Draft} {ns : List Node}
    (opens : Opens b parent r path s (n + 1) (.expand d) t)
    (below : Expands b n (path ++ [r.id]) d.manifest d.manifest.requirements t (.ok ns) u) :
    (d.finish (n + 1) r ns u).cache.Serves (n + 1) r (d.node r ns) := by
  obtain cache | ⟨cache, alone, idle⟩ := d.finish_cache (n + 1) r ns u
  · rw [cache]
    exact ⟨_, Cache.find?_store_self _ _, .inr (.inl (Int.le_refl _)), rfl⟩
  · obtain ⟨-, -, ⟨-, -, none, -⟩ | ⟨e, hit, -, -, known, license, resolution, former⟩⟩ :=
      opens.of_expand
    · exact nomatch none.symm.trans idle
    · have childless : e.node.dependencies = [] := Option.some.inj (former.symm.trans idle)
      have nothing : e.required = [] := by
        rw [Cache.Entry.required_of_known known, ← below.requirements_eq rfl, alone, List.map_nil]
      refine ⟨e, ?_, .inr (.inr ⟨nothing, childless⟩), ?_⟩
      · rw [cache, opens.find?_below below, hit]
      · rw [Cache.Entry.answer, Draft.node, license, resolution, childless, alone]

/-- A run below no module hands back what it leaves kept: what serves for a requirement goes on to do
so until the run ends. -/
theorem Expands.serves (run : Expands b n path parent rs s o t) (top : path = []) {ns : List Node}
    (ok : o = .ok ns) : List.Forall₂ (t.cache.Serves n) rs ns := by
  induction run generalizing ns with
  | nil =>
      cases ok
      exact .nil
  | halt | sink => cases ok
  | @pass n path parent r rest s t u node o opens after ih =>
      cases o with
      | error f => cases ok
      | ok ms =>
          cases ok
          have first := opens.serves_of_done (by rw [top]; exact List.not_mem_nil)
          exact .cons (after.serves_of_serves first) (ih top rfl)
  | @rise n path parent r rest s t u v d ms o opens below after ihBelow ihAfter =>
      cases o with
      | error f => cases ok
      | ok others =>
          cases ok
          have first := opens.serves_of_finish below
          exact .cons (after.serves_of_serves first) (ihAfter top rfl)

/-- What is kept is handed back without any question, and stays kept. -/
theorem expands_of_serves (b : Builder σ) (parent : PlacedManifest) {c : Cache} {ns : List Node}
    (served : List.Forall₂ (c.Serves n) rs ns) (same : s.cache = c) :
    ∃ t, Expands b n [] parent rs s (.ok ns) t ∧ s.Undisturbed t := by
  induction served generalizing s with
  | nil => exact ⟨s, .nil, ⟨rfl, rfl, rfl, rfl⟩⟩
  | @cons r node rest ns first others ih =>
      cases n with
      | zero =>
          cases first
          obtain ⟨t, run, quiet⟩ := @ih
            (s.counted fun c => { c with unexpanded := c.unexpanded + 1 }) same
          exact ⟨t, .pass .bare run, (s.undisturbed_counted _).trans quiet⟩
      | succ n =>
          obtain ⟨e, kept, spent, rfl⟩ := first
          rw [← same] at kept
          by_cases enough : e.manifest = none ∨ (n + 1 : Nat) ≤ e.levels
          · obtain ⟨t, run, quiet⟩ := @ih
              ((s.entered r).counted fun c => { c with cacheHits := c.cacheHits + 1 }) same
            exact ⟨t, .pass (.shared List.not_mem_nil kept enough) run,
              (s.undisturbed_hit r).trans quiet⟩
          · -- It is kept with too few levels, but requires nothing.
            obtain ⟨m, known⟩ := Option.ne_none_iff_exists'.mp (not_or.mp enough).1
            have opens : Opens b parent r [] s (n + 1) (.expand _) _ :=
              .deepen List.not_mem_nil kept known (Int.not_le.mp (not_or.mp enough).2)
            obtain ⟨none, former⟩ := opens.idle_of_spent kept spent
            obtain ⟨t, run, quiet⟩ := @ih (((s.entered r).counted
              fun c => { c with cacheHits := c.cacheHits + 1 }).told .debug
                ("Expanding cached module " ++ r.id ++ " further")) same
            have childless : e.node.dependencies = [] := Option.some.inj former
            have plain : e.answer r = Draft.node
                ⟨e.node.license, e.node.resolution, m, some e.node.dependencies⟩ r [] := by
              rw [Cache.Entry.answer, Draft.node, childless]
            have below {u : BuildState σ} :
                Expands b n ([] ++ [r.id]) m m.requirements u (.ok []) u := by
              rw [none]
              exact .nil
            refine ⟨t, ?_,
              ((s.undisturbed_hit r).trans (BuildState.undisturbed_told _ _ _)).trans quiet⟩
            rw [plain]
            exact .rise opens below (by rwa [Draft.finish_idle former])

end Build

namespace Builder

theorem closed_undisturbed (o : Except Failure (List Node)) (t : BuildState σ) :
    t.Undisturbed (closed o t) := by
  cases o with
  | ok ns => exact t.undisturbed_told _ _
  | error f => exact ⟨rfl, rfl, rfl, rfl⟩

/-- A build that returned a tree returns it again when it is repeated, whatever had happened before
it: it asks for nothing, has nothing labelled, and leaves all that is kept as it is. -/
theorem rebuilt_of_build {b : Builder σ} {root : PlacedManifest} {depth : Int} {s : BuildState σ}
    {t : Tree} (built : (b.build root depth s).1 = .ok t) :
    (b.build root depth (b.build root depth s).2).1 = .ok t ∧
      (b.build root depth s).2.Undisturbed (b.build root depth (b.build root depth s).2).2 := by
  obtain ⟨-, refused⟩ | ⟨n, o, u, rfl, run, result⟩ := b.build_cases root depth s
  · rw [refused] at built
    cases built
  · rw [result] at built ⊢
    cases o with
    | error f => cases built
    | ok ns =>
        cases built
        have served := run.serves rfl rfl
        have start := (closed (.ok ns) u).undisturbed_told .debug
          "Started building the dependency graph"
        obtain ⟨v, again, quiet⟩ := Build.expands_of_serves b root served
          (start.cache.trans (closed_cache (.ok ns) u))
        rw [build_of_expands again]
        exact ⟨rfl, (start.trans quiet).trans (closed_undisturbed (.ok ns) v)⟩

/-- A lenient builder in a graph where two modules require each other, one of them without a license,
a third one cannot be fetched, and the last one requires nothing. -/
def motley : Builder Unit where
  resolver _ r := ExceptT.mk (pure (
    if r.id = "a@v1" then .ok ⟨some (Chart.manifest "a" ["b", "c", "d"]), some [77, 73, 84]⟩
    else if r.id = "b@v1" then .ok ⟨some (Chart.manifest "b" ["a"]), none⟩
    else if r.id = "c@v1" then .error (.problem (.new .download none none))
    else .ok ⟨some (Chart.manifest "d" []), some [77, 73, 84]⟩))
  classifier _ := pure "MIT"
  lenient := true

/-- A build to three levels, by a builder that has looked into the first level before. -/
def motleyBuild (s : BuildState Unit) : Except Failure Tree × BuildState Unit :=
  motley.build (Chart.manifest "m" ["d", "a", "b"]) 3 s

def motleyStart : BuildState Unit := (motley.build (Chart.manifest "m" ["d", "c"]) 1 (.fresh ())).2

/-- The tree has all kinds of nodes, some of them expanded further than before, and is the same when
the build is repeated. -/
theorem rebuilt_of_build_motley :
    ∃ t, (motleyBuild motleyStart).1 = .ok t ∧
      t.walk.map (·.2.resolution) = [.resolved, .resolved, .unlicensed, .cycle, .skipped, .resolved,
        .unlicensed, .resolved, .unlicensed, .cycle, .skipped, .resolved] ∧
      (motleyBuild (motleyBuild motleyStart).2).1 = .ok t ∧
      (motleyBuild (motleyBuild motleyStart).2).2.asked = (motleyBuild motleyStart).2.asked := by
  have shown : (motleyBuild motleyStart).1.toOption.map (fun t =>
      t.walk.map (·.2.resolution)) = some [.resolved, .resolved, .unlicensed, .cycle, .skipped,
        .resolved, .unlicensed, .resolved, .unlicensed, .cycle, .skipped, .resolved] := by
    decide +kernel
  obtain ⟨t, built, shown⟩ := exists_ok_of_map shown
  obtain ⟨again, quiet⟩ := rebuilt_of_build built
  exact ⟨t, built, shown, again, quiet.asked⟩

end Builder

end Attribution

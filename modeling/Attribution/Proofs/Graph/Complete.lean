import Attribution.Proofs.Graph.Coverage
import Attribution.Proofs.Graph.Order
import Attribution.Proofs.Tree.Modules

/-!
What a build attributes. When the outcome of a search for content depends on the module alone, the
licensed modules of a tree are those that routes no longer than the depth lead to. So a report has a
section for each of them, and none for any other.
-/

namespace Attribution

variable {σ : Type}

namespace Build

variable {b : Builder σ} {answer : ModuleId → Except Failure Content} {root : PlacedManifest}
  {depth : Nat} {s u : BuildState σ} {ns : List Node}

/-- What a run that starts with nothing keeps is what routes within its levels lead to. -/
theorem Expands.kept_iff (answers : b.Answers fun r => answer r.id)
    (run : Expands b depth [] root root.requirements s (.ok ns) u) (nothing : s.cache = .empty)
    (id : ModuleId) :
    u.cache.find? id ≠ none ↔ ∃ route r, route.length ≤ depth ∧
      Route.follow (b.needs answer) root.requirements route = some r ∧ r.id = id := by
  have empty (id) : s.cache.find? id = none := by rw [nothing]; rfl
  have sourced : s.cache.Sourced (b.known answer) := fun id e h => by simp [empty] at h
  constructor
  · intro kept
    obtain ⟨e, he⟩ := Option.ne_none_iff_exists'.mp kept
    obtain ⟨old, hold, -⟩ | ⟨route, r, hr, same, short, -⟩ := run.traced answers sourced he
    · simp [empty] at hold
    · exact ⟨route, r, short, hr, same⟩
  · rintro ⟨route, r, short, hr, rfl⟩
    obtain ⟨closed, due⟩ := run.due answers rfl rfl sourced fun r e h => by simp [empty] at h
    have covers := closed.follow Due.covers_of_nil (fun r hr => (due r hr).covers_of_nil) hr
    obtain ⟨e, he, -⟩ := covers.kept (by omega)
    rw [he]
    exact Option.some_ne_none e

end Build

namespace Builder

/-- A tree that is built from nothing attributes each module once, and just those that routes within
the depth lead to; the sections of a report on it are theirs. The resolver may answer as it likes,
but the same for all requirements of a module. -/
theorem attributed_of_build {b : Builder σ} {answer : ModuleId → Except Failure Content}
    (answers : b.Answers fun r => answer r.id) {root : PlacedManifest} {depth : Nat} {world : σ}
    {t : Tree} (built : (b.build root depth (.fresh world)).1 = .ok t) :
    t.attributed.Nodup ∧
      (∀ id, id ∈ t.attributed ↔ ∃ route r, route.length ≤ depth ∧
        Route.follow (b.needs answer) root.requirements route = some r ∧ r.id = id) ∧
      (Report.sections t).map (·.id) = t.attributed.map String.toList := by
  refine ⟨t.attributed_nodup, fun id => ?_, t.sections_id⟩
  obtain ⟨o, u, run, result⟩ := b.expands_build root depth (.fresh world)
  rw [result] at built
  cases o with
  | error f => cases built
  | ok ns =>
      cases built
      obtain ⟨orderly, order⟩ := run.order rfl ((Build.Orderly.fresh world).congr rfl rfl)
      have asked : id ∈ Build.seen u ↔ id ∈ Build.licensedIds ns := by
        rw [order, List.mem_eraseDups]
        exact Iff.of_eq (congrArg (id ∈ ·) (List.nil_append _))
      rw [Tree.mem_attributed, ← run.kept_iff answers rfl id]
      change id ∈ Build.licensedIds ns ↔ _
      rw [← asked]
      constructor
      · exact fun h => (orderly.pending id h).resolve_left List.not_mem_nil
      · intro kept
        obtain ⟨e, he⟩ := Option.ne_none_iff_exists'.mp kept
        exact (orderly.kept id e he).1

/-- A module that is met below another one first and again nearer to the root, where a cycle through
it begins. -/
def winding : Chart := fun id =>
  if id = "a@v1" then ["c"] else if id = "c@v1" then ["d"] else if id = "d@v1" then ["c"] else []

/-- What a lenient build in the winding graph comes to, to the depth of its second module. -/
def windingBuild : Except Failure Tree × BuildState Unit :=
  (winding.builder true).build (Chart.manifest "m" ["a", "c"]) 2 (.fresh ())

theorem attributed_of_build_winding :
    ∃ t, windingBuild.1 = .ok t ∧ t.attributed = ["a@v1", "c@v1", "d@v1"] ∧
      ∃ route r, route.length ≤ 2 ∧ Route.follow ((winding.builder true).needs winding.content)
        (Chart.manifest "m" ["a", "c"]).requirements route = some r ∧ r.id = "d@v1" := by
  have attributed : windingBuild.1.toOption.map Tree.attributed =
    some ["a@v1", "c@v1", "d@v1"] := by decide +kernel
  rcases build : windingBuild.1 with f | t
  · rw [build] at attributed
    cases attributed
  · rw [build] at attributed
    have ids : t.attributed = ["a@v1", "c@v1", "d@v1"] := Option.some.inj attributed
    obtain ⟨-, reached, -⟩ := attributed_of_build (winding.builder_answers true) build
    exact ⟨t, rfl, ids, (reached "d@v1").mp (by simp [ids])⟩

end Builder

end Attribution

import Attribution.Proofs.Graph.Coverage
import Attribution.Proofs.Graph.Shape

/-!
How far a strict build expands what it keeps and what it hands back: as far as there are levels. Every
node has a license then, and a node for each of its requirements, down to where the levels end. So a
tree goes on just as far as routes do.
-/

namespace Attribution

variable {σ : Type}

/-- For so many levels, every node is licensed and has a node for each of its requirements. -/
def Node.Expanded (next : Requirement → List Requirement) : Nat → Node → Prop
  | 0, _ => True
  | k + 1, n =>
    n.license.isSome ∧ n.dependencies.map Node.requirement = next n.requirement ∧
      ∀ m ∈ n.dependencies, m.Expanded next k

namespace Node

variable {next : Requirement → List Requirement} {k less : Nat} {n : Node}

theorem Expanded.anti (expanded : n.Expanded next k) (fewer : less ≤ k) : n.Expanded next less := by
  induction less generalizing n k with
  | zero => trivial
  | succ less ih =>
      cases k with
      | zero => exact absurd fewer (Nat.not_succ_le_zero _)
      | succ k =>
          obtain ⟨licensed, children, below⟩ := expanded
          exact ⟨licensed, children, fun m hm => ih (below m hm) (Nat.le_of_succ_le_succ fewer)⟩

/-- A node that is expanded one level further stays within its levels unless some route from it is as
long as they are many. -/
theorem Expanded.within_iff (expanded : n.Expanded next (k + 1)) :
    n.Within k ↔ ∀ onward, onward.length = k → Route.below next n.requirement onward = none := by
  induction k generalizing n with
  | zero =>
      constructor
      · intro bare
        have licensed := expanded.1
        rw [bare.1] at licensed
        cases licensed
      · intro none
        cases none [] rfl
  | succ k ih =>
      obtain ⟨-, children, below⟩ := expanded
      constructor
      · intro within onward long
        cases onward with
        | nil => cases long
        | cons i onward =>
            rw [Route.below, ← children, List.getElem?_map]
            cases child : n.dependencies[i]? with
            | none => rfl
            | some m =>
                have hm := List.mem_of_getElem? child
                exact (ih (below m hm)).mp (within m hm) onward (Nat.succ.inj long)
      · intro none m hm
        apply (ih (below m hm)).mpr
        intro onward long
        obtain ⟨i, hi, rfl⟩ := List.mem_iff_getElem.mp hm
        have further := none (i :: onward) (congrArg Nat.succ long)
        rw [Route.below, ← children, List.getElem?_map, List.getElem?_eq_getElem hi] at further
        exact further

end Node

namespace Build

/-- Every kept module is expanded as far as it is kept. -/
def Full (next : Requirement → List Requirement) (c : Cache) : Prop :=
  ∀ id e, c.find? id = some e → e.node.Expanded next e.levels.toNat

theorem Full.store {next : Requirement → List Requirement} {c : Cache} {node : Node} {n : Nat}
    {manifest : Option PlacedManifest} (full : Full next c) (expanded : node.Expanded next n) :
    Full next (c.store ⟨node, n, manifest⟩) := by
  intro id e kept
  cases Cache.find?_of_store kept with
  | inl new =>
      obtain ⟨-, rfl⟩ := new
      exact expanded
  | inr old => exact full id e old

section
variable {b : Builder σ} {answer : ModuleId → Except Failure Content} {parent : PlacedManifest}
  {r : Requirement} {path : List ModuleId} {s t u : BuildState σ} {n : Nat}
  {rs rest : List Requirement} {o : Except Failure (List Node)}

/-- A node that shares what is kept of its module is expanded as far. -/
theorem Full.expanded {c : Cache} {e : Cache.Entry} {k : Nat} (full : Full (b.needs answer) c)
    (sound : e.Sound r.id) (kept : c.find? r.id = some e) (far : (k : Int) ≤ e.levels) :
    Node.Expanded (b.needs answer) k
      ⟨r.version, r.replacement, e.node.license, e.node.dependencies, e.node.resolution⟩ := by
  have expanded : e.node.Expanded (b.needs answer) k := (full _ e kept).anti (by omega)
  cases k with
  | zero => trivial
  | succ k =>
      obtain ⟨licensed, children, below⟩ := expanded
      exact ⟨licensed, children.trans (Builder.needs_congr sound.same), below⟩

variable (answers : b.Answers fun r => answer r.id) (strict : b.lenient = false)
include answers strict

theorem Opens.expanded_of_done {node : Node}
    (opens : Opens b parent r path s n (.done (.ok node)) t) (formed : s.cache.Formed b.lenient)
    (sourced : s.cache.Sourced (b.known answer)) (full : Full (b.needs answer) s.cache) :
    Full (b.needs answer) t.cache ∧ node.Expanded (b.needs answer) n := by
  cases opens with
  | bare => exact ⟨full, trivial⟩
  | cycle _ mode => exact nomatch strict.symm.trans mode
  | @shared k e new hit enough =>
      refine ⟨full, ?_⟩
      have sound := (formed _ (Cache.mem_of_find? hit)).1
      cases enough with
      | inl unread =>
          have nothing := sourced.needs_of_unread hit unread
          refine ⟨sound.license, ?_, ?_⟩
          · rw [sound.alone unread]
            exact nothing.symm
          · rw [sound.alone unread]
            nofun
      | inr far => exact full.expanded sound hit far
  | @search k _ t new miss settled =>
      have nothing := settled.needs_of_done answers
      obtain ⟨-, ⟨f, ok, -⟩ | ⟨l, resolution, ok, cache⟩⟩ := settled.of_done
      · cases ok
      · cases ok
        have expanded : Node.Expanded (b.needs answer) (k + 1)
            ⟨r.version, r.replacement, some l, [], resolution⟩ := ⟨rfl, nothing.symm, nofun⟩
        rw [cache]
        exact ⟨full.store expanded, expanded⟩

/-- A strict build expands what it keeps, and what it hands back, as far as there are levels. -/
theorem full : Upholds b
    (fun c => c.Formed b.lenient ∧ c.Sourced (b.known answer) ∧ Full (b.needs answer) c)
    fun _ n node => node.Throughout (Node.Formed b.lenient) ∧
      node.Expanded (b.needs answer) n := by
  apply (formed b).extend
  case empty => exact ⟨nofun, nofun⟩
  case grow =>
    intro c c' n node _ expanded
    exact expanded
  case done =>
    intro parent r path s t n node opens formed kept
    obtain ⟨full, expanded⟩ := opens.expanded_of_done answers strict formed kept.1 kept.2
    exact ⟨⟨opens.sourced answers kept.1, full⟩, expanded⟩
  case finish =>
    intro parent r path s t u n d ns opens below formed before kept expanded
    have licensed := (opens.formed_of_expand formed ns).2.1
    have children : ns.map Node.requirement = b.needs answer r := by
      rw [below.requirements_eq rfl, opens.needs_of_expand answers before.1]
    have here : (d.node r ns).Expanded (b.needs answer) (n + 1) := ⟨licensed, children, expanded⟩
    exact ⟨⟨opens.sourced_finish answers before.1 kept.1 ns,
      Draft.finish_induction (kept.2.store here) kept.2⟩, here⟩

end

end Build

end Attribution

import Attribution.Proofs.Graph.Shape
import Attribution.Proofs.Tree.Lineage

/-!
Where cycles are closed. When a module is looked into, it hangs nowhere below itself, and the
placeholders right below it stand for modules that it hangs below. But what was kept is handed out
again in other places, placeholders included. So a tree is truthful about its cycles if the places in
which it shows the same agree on them, and only then.
-/

namespace Attribution

variable {σ : Type}

namespace Node

/-- A module that was looked into, with something below it. -/
def Explored (n : Node) : Prop :=
  n.resolution ∈ [Resolution.resolved, .unlicensed] ∧ n.dependencies ≠ []

instance (n : Node) : Decidable n.Explored := inferInstanceAs (Decidable (_ ∧ _))

/-- Two nodes show the same of one module. -/
structure Twin (n m : Node) : Prop where
  id : n.id = m.id
  license : n.license = m.license
  dependencies : n.dependencies = m.dependencies
  resolution : n.resolution = m.resolution

theorem Twin.refl (n : Node) : n.Twin n := ⟨rfl, rfl, rfl, rfl⟩

theorem Twin.symm {n m : Node} (twin : n.Twin m) : m.Twin n :=
  ⟨twin.id.symm, twin.license.symm, twin.dependencies.symm, twin.resolution.symm⟩

theorem Twin.explored {n m : Node} (twin : n.Twin m) (explored : n.Explored) : m.Explored := by
  rwa [Explored, ← twin.resolution, ← twin.dependencies]

theorem Shaped.ne_cycle {n : Node} (shaped : n.Shaped) (licensed : n.license.isSome) :
    n.resolution ≠ .cycle := by
  intro cycle
  have resolution := shaped.resolution licensed
  rw [cycle] at resolution
  exact absurd resolution (by decide)

theorem Shaped.explored {n : Node} (shaped : n.Shaped) (below : n.dependencies ≠ []) :
    n.license.isSome ∧ n.Explored := by
  have licensed : n.license.isSome := by
    rw [Option.isSome_iff_ne_none]
    exact fun bare => below (shaped.alone bare)
  refine ⟨licensed, ?_, below⟩
  have resolution := shaped.resolution licensed
  unfold Shaped at shaped
  cases h : n.resolution <;> simp only [h] at shaped resolution ⊢
  case resolved | unlicensed => decide
  case leaf | skipped => exact absurd shaped.2 below
  case unexpanded | cycle => exact absurd resolution (by decide)

end Node

namespace Occurrence

/-- A placeholder for a cycle stands below the module it stands for, and nothing is expanded below
itself. -/
def Truthful (p : Occurrence) : Prop :=
  (p.node.resolution = .cycle → p.node.id ∈ p.line) ∧ (p.node.Explored → p.node.id ∉ p.line)

instance (p : Occurrence) : Decidable p.Truthful :=
  inferInstanceAs (Decidable ((_ → _) ∧ (_ → _)))

/-- A place where a module may have been looked into: it does not hang below itself there, and the
placeholders that hang on it stand for modules above them. -/
def Rooted (p : Occurrence) : Prop :=
  p.node.id ∉ p.line ∧
    ∀ m ∈ p.node.dependencies, m.resolution = .cycle → m.id ∈ p.line ++ [p.node.id]

/-- Two places of one module agree on whether it hangs below itself, and on which of the
placeholders that hang on it stand for modules above them. -/
def Agrees (p q : Occurrence) : Prop :=
  (p.node.id ∈ p.line ↔ q.node.id ∈ q.line) ∧
    ∀ m ∈ p.node.dependencies, m.resolution = .cycle →
      (m.id ∈ p.line ++ [p.node.id] ↔ m.id ∈ q.line ++ [q.node.id])

/-- What a node shows is shown, among the given places, in one where it may have been found. -/
def Founded (seen : List Occurrence) (n : Node) : Prop :=
  ∃ p ∈ seen, p.node.Twin n ∧ p.Rooted

theorem Founded.mono {seen seen' : List Occurrence} {n : Node} (founded : Founded seen n)
    (more : seen ⊆ seen') : Founded seen' n := by
  obtain ⟨p, hp, origin⟩ := founded
  exact ⟨p, more hp, origin⟩

/-- Every licensed node of a list is founded on places that were seen before the list, or in the list
up to its own. -/
def Grounded : List Occurrence → List Occurrence → Prop
  | _, [] => True
  | seen, p :: rest =>
    (p.node.license.isSome → Founded (seen ++ [p]) p.node) ∧ Grounded (seen ++ [p]) rest

section
variable {seen before after places : List Occurrence} {p : Occurrence}

theorem grounded_append :
    Grounded seen (before ++ after) ↔ Grounded seen before ∧ Grounded (seen ++ before) after := by
  induction before generalizing seen with
  | nil => simp only [List.nil_append, Grounded, true_and, List.append_nil]
  | cons p rest ih =>
      simp only [List.cons_append, Grounded, ih, and_assoc, List.append_assoc, List.nil_append]

theorem grounded_of_founded
    (founded : ∀ p ∈ places, p.node.license.isSome → Founded seen p.node) :
    Grounded seen places := by
  induction places generalizing seen with
  | nil => trivial
  | cons p rest ih =>
      obtain ⟨first, others⟩ := List.forall_mem_cons.mp founded
      have more : seen ⊆ seen ++ [p] := List.subset_append_left _ _
      exact ⟨fun licensed => (first licensed).mono more,
        ih fun q hq licensed => (others q hq licensed).mono more⟩

theorem Grounded.founded (grounded : Grounded seen places) (h : p ∈ places)
    (licensed : p.node.license.isSome) : Founded (seen ++ places) p.node := by
  obtain ⟨before, after, rfl⟩ := List.append_of_mem h
  refine ((grounded_append.mp grounded).2.1 licensed).mono fun q hq => ?_
  simp only [List.mem_append, List.mem_cons, List.not_mem_nil, or_false] at hq ⊢
  rcases hq with (old | earlier) | here
  · exact .inl old
  · exact .inr (.inl earlier)
  · exact .inr (.inr (.inl here))

end

end Occurrence

open Occurrence

namespace Cache

/-- All that is kept under a license is founded on places that were seen. -/
def Founded (seen : List Occurrence) (c : Cache) : Prop :=
  ∀ entry ∈ c.entries, entry.2.node.Throughout fun n =>
    n.license.isSome → Occurrence.Founded seen n

theorem Founded.mono {seen seen' : List Occurrence} {c : Cache} (founded : c.Founded seen)
    (more : seen ⊆ seen') : c.Founded seen' := fun entry kept =>
  (founded entry kept).imp fun _ found licensed => (found licensed).mono more

theorem Founded.store {seen : List Occurrence} {c : Cache} {e : Entry} (founded : c.Founded seen)
    (here : e.node.Throughout fun n => n.license.isSome → Occurrence.Founded seen n) :
    (c.store e).Founded seen := forall_store founded here

end Cache

namespace Build

variable {b : Builder σ} {parent : PlacedManifest} {r : Requirement} {path : List ModuleId}
  {s t : BuildState σ} {n : Nat} {rs : List Requirement} {o : Except Failure (List Node)}
  {seen : List Occurrence}

/-- A node that was looked into is founded in its own place, and what is below it there as well. -/
theorem throughout_founded (seen : List Occurrence) (node : Node) (top : Rooted ⟨path, node⟩)
    (below : Grounded (seen ++ [⟨path, node⟩])
      (Node.lineages (path ++ [node.id]) node.dependencies)) :
    Grounded seen (Node.lineage path node) ∧ node.Throughout fun m =>
      m.license.isSome → Occurrence.Founded (seen ++ Node.lineage path node) m := by
  have grounded : Grounded seen (Node.lineage path node) := by
    rw [Node.lineage_eq]
    exact ⟨fun _ => ⟨_, List.mem_append_right _ List.mem_cons_self, .refl _, top⟩, below⟩
  refine ⟨grounded, fun m hm licensed => ?_⟩
  rw [← Node.nodes_lineage path] at hm
  obtain ⟨p, hp, rfl⟩ := List.mem_map.mp hm
  exact grounded.founded hp licensed

/-- What is handed out as it was kept is founded on places that were seen before. -/
theorem grounded_of_kept {node : Node}
    (throughout : node.Throughout fun m => m.license.isSome → Occurrence.Founded seen m) :
    Grounded seen (Node.lineage path node) := by
  refine grounded_of_founded fun p hp licensed => throughout p.node ?_ licensed
  rw [← Node.nodes_lineage path]
  exact List.mem_map_of_mem hp

/-- What is done with at once is founded, and is a placeholder for a cycle only below its module. -/
theorem Opens.grounded_of_done {node : Node}
    (opens : Opens b parent r path s n (.done (.ok node)) t) (formed : s.cache.Formed b.lenient)
    (founded : s.cache.Founded seen) :
    t.cache.Founded (seen ++ Node.lineage path node) ∧ Grounded seen (Node.lineage path node) ∧
      (node.resolution = .cycle → node.id ∈ path) := by
  have shaped := (Node.throughout_iff.mp (opens.formed_of_done formed).2).1.1
  have kept : s.cache.Founded (seen ++ Node.lineage path node) :=
    founded.mono (List.subset_append_left _ _)
  cases opens with
  | bare => exact ⟨kept, ⟨nofun, trivial⟩, nofun⟩
  | cycle again => exact ⟨kept, ⟨nofun, trivial⟩, fun _ => again⟩
  | @shared _ e new hit enough =>
      have entry := Cache.mem_of_find? hit
      have sound := (formed _ entry).1
      obtain ⟨top, below⟩ := Node.throughout_iff.mp (founded _ entry)
      refine ⟨kept, grounded_of_kept (Node.throughout_iff.mpr ⟨fun licensed => ?_, below⟩),
        fun cycle => absurd cycle (shaped.ne_cycle sound.license)⟩
      -- It may be kept for another requirement, but for one of the same identity.
      obtain ⟨p, hp, twin, rooted⟩ := top licensed
      exact ⟨p, hp, ⟨twin.id.trans sound.same, twin.license, twin.dependencies, twin.resolution⟩,
        rooted⟩
  | search new miss settled =>
      obtain ⟨-, ⟨f, ok, -⟩ | ⟨l, resolution, ok, cache⟩⟩ := settled.of_done
      · cases ok
      · cases ok
        obtain ⟨grounded, here⟩ := throughout_founded seen
          ⟨r.version, r.replacement, some l, [], resolution⟩ ⟨new, nofun⟩ trivial
        rw [cache]
        exact ⟨kept.store here, grounded, fun cycle => absurd cycle (shaped.ne_cycle rfl)⟩

/-- A run hands back what is founded, on what was seen before it or on what it found itself, as is all
that is kept then. The induction takes what was seen along: below a module, it has been seen itself. -/
theorem Expands.grounded (run : Expands b n path parent rs s o t) {ns : List Node} (ok : o = .ok ns)
    (formed : s.cache.Formed b.lenient) (founded : s.cache.Founded seen) :
    t.cache.Founded (seen ++ Node.lineages path ns) ∧ Grounded seen (Node.lineages path ns) ∧
      ∀ m ∈ ns, m.resolution = .cycle → m.id ∈ path := by
  induction run generalizing ns seen with
  | nil =>
      cases ok
      exact ⟨founded.mono (List.subset_append_left _ _), trivial, nofun⟩
  | halt | sink => cases ok
  | @pass n path parent r rest s t u node o opens after ih =>
      cases o with
      | error f => cases ok
      | ok ms =>
          cases ok
          obtain ⟨founded, first, closed⟩ := opens.grounded_of_done formed founded
          obtain ⟨founded, others, later⟩ := ih rfl (opens.formed_of_done formed).1 founded
          rw [List.append_assoc] at founded
          exact ⟨founded, grounded_append.mpr ⟨first, others⟩,
            List.forall_mem_cons.mpr ⟨closed, later⟩⟩
  | @rise n path parent r rest s t u v d ms o opens below after ihBelow ihAfter =>
      cases o with
      | error f => cases ok
      | ok others =>
          cases ok
          obtain ⟨same, new, -⟩ := opens.of_expand
          obtain ⟨⟨shaped, -⟩, licensed, -⟩ := opens.formed_of_expand formed ms
          -- The module comes before what is below it, so its own place counts as seen there.
          have entered : t.cache.Formed b.lenient := by rwa [same]
          have before : t.cache.Founded (seen ++ [⟨path, d.node r ms⟩]) := by
            rw [same]
            exact founded.mono (List.subset_append_left _ _)
          obtain ⟨within, children⟩ := (Build.formed b).run below entered
          obtain ⟨inside, under, closed⟩ := ihBelow rfl entered before
          obtain ⟨first, here⟩ := throughout_founded seen (d.node r ms) ⟨new, closed⟩ under
          have unfolded : Node.lineage path (d.node r ms) =
              [⟨path, d.node r ms⟩] ++ Node.lineages (path ++ [r.id]) ms := Node.lineage_eq _ _
          rw [List.append_assoc, ← unfolded] at inside
          obtain ⟨kept, -⟩ := (Build.formed b).finish opens below formed within (children ms rfl)
          obtain ⟨founded, after, later⟩ :=
            ihAfter rfl kept (Draft.finish_induction (inside.store here) inside)
          rw [List.append_assoc] at founded
          exact ⟨founded, grounded_append.mpr ⟨first, after⟩,
            List.forall_mem_cons.mpr ⟨fun cycle => absurd cycle (shaped.ne_cycle licensed), later⟩⟩

end Build

namespace Tree

/-- All placeholders for cycles stand below the modules they stand for, and nothing is expanded below
itself. -/
def Truthful (t : Tree) : Prop := ∀ p ∈ t.lineage, p.Truthful

instance (t : Tree) : Decidable t.Truthful := inferInstanceAs (Decidable (∀ p ∈ t.lineage, _))

/-- Places in which the same is shown of an expanded module agree on the cycles. -/
def Agreeing (t : Tree) : Prop :=
  ∀ p ∈ t.lineage, ∀ q ∈ t.lineage, p.node.Twin q.node → p.node.Explored → p.Agrees q

variable {t : Tree}

theorem Truthful.agreeing (truthful : t.Truthful) : t.Agreeing := by
  intro p hp q hq twin explored
  have here := (truthful p hp).2 explored
  have there := (truthful q hq).2 (twin.explored explored)
  refine ⟨iff_of_false here there, fun m hm cycle => iff_of_true ?_ ?_⟩
  · exact (truthful _ (Node.mem_lineages_child hp hm)).1 cycle
  · rw [twin.dependencies] at hm
    exact (truthful _ (Node.mem_lineages_child hq hm)).1 cycle

section
variable (origin : ∀ p ∈ t.lineage, p.node.dependencies ≠ [] → Founded t.lineage p.node)
  (top : ∀ n ∈ t.root.dependencies, n.resolution ≠ .cycle)
include origin top

/-- A placeholder for a cycle hangs on a module that was looked into above it, in that place or
another one. -/
theorem exists_rooted {p : Occurrence} (hp : p ∈ t.lineage) (cycle : p.node.resolution = .cycle) :
    ∃ q ∈ t.lineage, ∃ o ∈ t.lineage, p.line = q.line ++ [q.node.id] ∧
      p.node ∈ q.node.dependencies ∧ o.node.Twin q.node ∧ o.Rooted := by
  obtain ⟨-, here⟩ | ⟨q, hq, below, line⟩ := Node.parent_of_mem_lineages hp
  · exact absurd cycle (top _ here)
  · obtain ⟨o, ho, twin, rooted⟩ := origin q hq (List.ne_nil_of_mem below)
    exact ⟨q, hq, o, ho, line, below, twin, rooted⟩

theorem Agreeing.truthful (agreeing : t.Agreeing)
    (explored : ∀ p ∈ t.lineage, p.node.dependencies ≠ [] → p.node.Explored) : t.Truthful := by
  intro p hp
  constructor
  · intro cycle
    obtain ⟨q, hq, o, ho, line, below, twin, rooted⟩ := exists_rooted origin top hp cycle
    rw [← twin.dependencies] at below
    obtain ⟨-, closed⟩ := agreeing o ho q hq twin (explored o ho (List.ne_nil_of_mem below))
    rw [line]
    exact (closed p.node below cycle).mp (rooted.2 p.node below cycle)
  · intro within
    obtain ⟨o, ho, twin, rooted⟩ := origin p hp within.2
    exact mt (agreeing o ho p hp twin (twin.symm.explored within)).1.mpr rooted.1

end

end Tree

namespace Builder

variable {b : Builder σ} {root : PlacedManifest} {depth : Int} {world : σ} {t : Tree}

theorem grounded_of_build (built : (b.build root depth (.fresh world)).1 = .ok t) :
    Grounded [] t.lineage ∧ (∀ p ∈ t.lineage, p.node.Shaped) ∧
      ∀ n ∈ t.root.dependencies, n.resolution ≠ .cycle := by
  obtain ⟨-, formed⟩ := (upheld_build (Build.formed b) (Build.formed b).empty root depth).2 t built
  obtain ⟨-, refused⟩ | ⟨k, o, u, rfl, run, result⟩ := b.build_cases root depth (.fresh world)
  · rw [refused] at built
    cases built
  · rw [result] at built
    cases o with
    | error f => cases built
    | ok ns =>
        cases built
        have nothing : Cache.empty.Founded [] := nofun
        obtain ⟨-, grounded, top⟩ := run.grounded rfl (Build.formed b).empty nothing
        refine ⟨grounded, fun p hp => ?_, fun n hn cycle => nomatch top n hn cycle⟩
        obtain ⟨n, hn, within⟩ := Node.mem_nodes.mp (Node.mem_nodes_of_mem_lineages hp)
        exact (formed n hn p.node within).1

/-- In a tree that was built from nothing, all that is shown of a module was found in a place no later
in the walk, where it does not hang below itself and its placeholders for cycles stand for modules
above them; and what a placeholder stands for is expanded somewhere. The tree is truthful about its
cycles everywhere if and only if places in which the same is shown agree on them. -/
theorem truthful_of_build (built : (b.build root depth (.fresh world)).1 = .ok t) :
    (∀ before p after, t.lineage = before ++ p :: after → p.node.license.isSome →
      Founded (before ++ [p]) p.node) ∧
    (∀ p ∈ t.lineage, p.node.resolution = .cycle →
      ∃ q ∈ t.lineage, q.node.id = p.node.id ∧ q.node.Explored) ∧
    (t.Truthful ↔ t.Agreeing) := by
  obtain ⟨grounded, shaped, top⟩ := grounded_of_build built
  have explored : ∀ p ∈ t.lineage, p.node.dependencies ≠ [] → p.node.Explored :=
    fun p hp below => ((shaped p hp).explored below).2
  have origin : ∀ p ∈ t.lineage, p.node.dependencies ≠ [] → Founded t.lineage p.node :=
    fun p hp below => grounded.founded hp ((shaped p hp).explored below).1
  refine ⟨fun before p after split licensed => ?_, fun p hp cycle => ?_,
    fun truthful => truthful.agreeing, fun agreeing => agreeing.truthful origin top explored⟩
  · rw [split] at grounded
    exact (grounded_append.mp grounded).2.1 licensed
  · obtain ⟨q, hq, o, ho, -, below, twin, rooted⟩ := Tree.exists_rooted origin top hp cycle
    rw [← twin.dependencies] at below
    cases List.mem_append.mp (rooted.2 p.node below cycle) with
    | inl above =>
        obtain none | ⟨q, hq, same, below⟩ := Node.exists_of_mem_line ho above
        · cases none
        · exact ⟨q, hq, same, explored q hq below⟩
    | inr here =>
        exact ⟨o, ho, (List.mem_singleton.mp here).symm, explored o ho (List.ne_nil_of_mem below)⟩

/-- Two modules that require each other, one of which is met below a third one as well, and then
nearer to the root. -/
def tangled : Chart := fun id =>
  if id = "a@v1" then ["b"] else if id = "b@v1" then ["a"] else if id = "c@v1" then ["b"] else []

def tangledBuild : Except Failure Tree × BuildState Unit :=
  (tangled.builder true).build (Chart.manifest "m" ["a", "c", "b"]) 3 (.fresh ())

/-- The tree shows a placeholder below the third module for one that is not above it, and shows the
second module expanded below itself. -/
theorem tangled_untruthful : ∃ t, tangledBuild.1 = .ok t ∧
    (∃ p ∈ t.lineage, p.node.resolution = .cycle ∧ p.node.id ∉ p.line) ∧
    ∃ p ∈ t.lineage, p.node.Explored ∧ p.node.id ∈ p.line := by
  have shown : tangledBuild.1.toOption.map (fun t => decide (
      (∃ p ∈ t.lineage, p.node.resolution = .cycle ∧ p.node.id ∉ p.line) ∧
        ∃ p ∈ t.lineage, p.node.Explored ∧ p.node.id ∈ p.line)) = some true := by decide +kernel
  obtain ⟨t, built, shown⟩ := exists_ok_of_map shown
  exact ⟨t, built, of_decide_eq_true shown⟩

/-- The second module is shown alike below the first one and below the third one, but the first one is
above it only there. -/
theorem truthful_of_build_tangled : ∃ t, tangledBuild.1 = .ok t ∧ ¬ t.Agreeing := by
  have untruthful : tangledBuild.1.toOption.map (fun t => decide (¬ t.Truthful)) = some true := by
    decide +kernel
  obtain ⟨t, built, untruthful⟩ := exists_ok_of_map untruthful
  obtain ⟨-, -, truthful_iff⟩ := truthful_of_build built
  exact ⟨t, built, mt truthful_iff.mpr (of_decide_eq_true untruthful)⟩

end Builder

end Attribution

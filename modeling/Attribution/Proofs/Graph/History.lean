import Attribution.Proofs.Graph.Frontier
import Attribution.Proofs.Graph.Viability

/-!
Builds after a history and from nothing. What succeeds from nothing succeeds after any history, and
within the depth a tree licenses no module but those that routes lead to. It licenses all of them, unless
a cycle was closed in it with its module licensed nowhere as near to the root. What was kept before may
still differ from what a build finds by itself: it may hide a cycle, or bring in what lies beyond the
depth.
-/

namespace Attribution

variable {σ : Type}

namespace Node

theorem Shaped.licensed_or {n : Node} (shaped : n.Shaped) :
    n.license.isSome ∨ n.resolution = .unexpanded ∨ n.resolution = .cycle := by
  unfold Shaped at shaped
  cases resolution : n.resolution <;> rw [resolution] at shaped
  case resolved =>
    obtain ⟨byte, bytes, name, license⟩ := shaped
    exact .inl (Option.isSome_of_eq_some license)
  case leaf =>
    obtain ⟨⟨byte, bytes, name, license⟩, -⟩ := shaped
    exact .inl (Option.isSome_of_eq_some license)
  case skipped =>
    obtain ⟨⟨r, -, license⟩, -⟩ := shaped
    exact .inl (Option.isSome_of_eq_some license)
  case unlicensed =>
    obtain ⟨r, -, license⟩ := shaped
    exact .inl (Option.isSome_of_eq_some license)
  case unexpanded => exact .inr (.inl rfl)
  case cycle => exact .inr (.inr rfl)
  case root => exact shaped.elim

/-- Where nodes hang what their modules require, every place is at the end of a route. -/
theorem exists_below {next : Requirement → List Requirement} {n : Node} {depth : Nat}
    {entry : Nat × Node}
    (children : n.Throughout fun m =>
      m.dependencies = [] ∨ m.dependencies.map Node.requirement = next m.requirement)
    (mem : entry ∈ preorder depth n) :
    ∃ route, Route.below next n.requirement route = some entry.2.requirement ∧
      depth + route.length = entry.1 := by
  induction n using Node.induction generalizing depth with
  | step n ih =>
      obtain ⟨here, lower⟩ := throughout_iff.mp children
      cases mem_preorder.mp mem with
      | inl top =>
          subst top
          exact ⟨[], rfl, rfl⟩
      | inr below =>
          obtain ⟨m, child, within⟩ := below
          obtain ⟨route, leads, long⟩ := ih m child (lower m child) within
          obtain ⟨i, at_i⟩ := List.mem_iff_getElem?.mp child
          have hangs : n.dependencies.map Node.requirement = next n.requirement := by
            refine here.resolve_left fun none => ?_
            rw [none] at child
            cases child
          refine ⟨i :: route, ?_, ?_⟩
          · rw [Route.below, ← hangs, List.getElem?_map, at_i]
            exact leads
          · rw [List.length_cons]
            omega

end Node

namespace Tree

theorem mem_attributed_iff {t : Tree} {id : ModuleId} :
    id ∈ t.attributed ↔ ∃ entry ∈ t.walk, entry.2.license.isSome ∧ entry.2.id = id := by
  rw [mem_attributed, Node.licensed_eq, ← walk_nodes]
  simp only [List.mem_map, List.mem_filter, and_assoc, exists_exists_and_eq_and]

/-- Within the depth the module is licensed. -/
def Licenses (t : Tree) (depth : Nat) (id : ModuleId) : Prop :=
  ∃ entry ∈ t.walk, entry.1 ≤ depth ∧ entry.2.license.isSome ∧ entry.2.id = id

/-- Where a cycle was closed within the depth, the module is licensed as near to the root. -/
def Anchored (t : Tree) (depth : Nat) : Prop :=
  ∀ entry ∈ t.walk, entry.1 ≤ depth → entry.2.resolution = .cycle → t.Licenses entry.1 entry.2.id

/-- The tree hangs on every node what its module requires, down to the depth at least, but for cycles
that were closed. -/
structure Depicts (next : Requirement → List Requirement) (rs : List Requirement) (depth : Nat)
    (t : Tree) : Prop where
  first : t.root.dependencies.map Node.requirement = rs
  children : ∀ entry ∈ t.walk, entry.2.license.isSome →
    entry.2.dependencies.map Node.requirement = next entry.2.requirement
  bare : ∀ entry ∈ t.walk, entry.2.license = none → entry.2.dependencies = []
  pursued : ∀ entry ∈ t.walk, entry.1 ≤ depth →
    entry.2.license.isSome ∨ entry.2.resolution = .cycle

section
variable {next : Requirement → List Requirement} {rs : List Requirement} {depth : Nat} {t : Tree}

theorem Depicts.exists_route (depicts : t.Depicts next rs depth) {entry : Nat × Node}
    (mem : entry ∈ t.walk) :
    ∃ route, Route.follow next rs route = some entry.2.requirement ∧ route.length = entry.1 := by
  let Hangs := fun m : Node =>
    m.dependencies = [] ∨ m.dependencies.map Node.requirement = next m.requirement
  have hangs : ∀ place ∈ t.walk, Hangs place.2 := by
    intro place mem
    cases license : place.2.license with
    | none => exact .inl (depicts.bare place mem license)
    | some l => exact .inr (depicts.children place mem (Option.isSome_of_eq_some license))
  obtain ⟨top, given, within⟩ := mem_walk.mp mem
  obtain ⟨route, leads, long⟩ := Node.exists_below (t.forall_walk.mp hangs top given) within
  obtain ⟨i, at_i⟩ := List.mem_iff_getElem?.mp given
  refine ⟨i :: route, ?_, ?_⟩
  · rw [Route.follow, ← depicts.first, List.getElem?_map, at_i]
    exact leads
  · rw [List.length_cons, Nat.add_comm]
    exact long

variable (depicts : t.Depicts next rs depth) (anchored : t.Anchored depth)
  (byId : ∀ q p : Requirement, q.id = p.id → next q = next p)
include depicts anchored byId

/-- In an anchored tree whatever a route leads to from a place, within the depth, is licensed. -/
theorem Depicts.licenses_below {k : Nat} {n : Node} {route : Route} {r : Requirement}
    (mem : (k, n) ∈ t.walk) (short : k + route.length ≤ depth)
    (leads : Route.below next n.requirement route = some r) : t.Licenses depth r.id := by
  induction route generalizing k n with
  | nil =>
      cases leads
      obtain licensed | closes := depicts.pursued _ mem short
      · exact ⟨_, mem, short, licensed, rfl⟩
      · obtain ⟨other, mem', near, licensed, same⟩ := anchored _ mem short closes
        exact ⟨other, mem', Nat.le_trans near short, licensed, same⟩
  | cons i route ih =>
      rw [List.length_cons] at short
      -- Where a cycle was closed, the route goes on from the nearer place.
      obtain ⟨⟨j, m⟩, mem', near, licensed, same⟩ : t.Licenses k n.id := by
        obtain licensed | closes := depicts.pursued _ mem (by simp only; omega)
        · exact ⟨_, mem, Nat.le_refl _, licensed, rfl⟩
        · exact anchored _ mem (by simp only; omega) closes
      rw [Route.below, byId n.requirement m.requirement same.symm,
        ← depicts.children _ mem' licensed, List.getElem?_map] at leads
      obtain ⟨q, child, leads⟩ := Option.bind_eq_some_iff.mp leads
      obtain ⟨lower, at_i, rfl⟩ := Option.map_eq_some_iff.mp child
      refine ih (mem_walk_child mem' (List.mem_of_getElem? at_i)) ?_ leads
      simp only at near
      omega

theorem Depicts.licenses {route : Route} {r : Requirement} (short : route.length ≤ depth)
    (leads : Route.follow next rs route = some r) : t.Licenses depth r.id := by
  cases route with
  | nil => cases leads
  | cons i route =>
      rw [Route.follow, ← depicts.first, List.getElem?_map] at leads
      obtain ⟨q, child, leads⟩ := Option.bind_eq_some_iff.mp leads
      obtain ⟨top, at_i, rfl⟩ := Option.map_eq_some_iff.mp child
      have given : (1, top) ∈ t.walk :=
        mem_walk.mpr ⟨top, List.mem_of_getElem? at_i, Node.self_mem_preorder top 1⟩
      refine depicts.licenses_below anchored byId given ?_ leads
      rw [List.length_cons] at short
      omega

end

end Tree

theorem Cache.Sourced.required_eq {b : Builder σ} {answer : ModuleId → Except Failure Content}
    {c : Cache} {r : Requirement} {e : Cache.Entry} (sourced : c.Sourced (b.known answer))
    (kept : c.find? r.id = some e) : e.required = b.needs answer r := by
  have known := sourced r.id e kept
  cases manifest : e.manifest with
  | none =>
      rw [sourced.needs_of_unread kept manifest, Cache.Entry.required, manifest]
  | some m =>
      rw [manifest] at known
      rw [Cache.Entry.required_of_known manifest, Builder.needs_of_known known.symm]

namespace Builder

variable {b : Builder σ} {answer : ModuleId → Except Failure Content}
  {label : Bytes → Except Failure String} {root : PlacedManifest} {depth : Nat} {world : σ}
  {roots : PlacedManifest → Prop} {s : BuildState σ} {t : Tree}

section
variable (answers : b.Answers fun r => answer r.id)
include answers

theorem depicts_of_build (reachable : b.Reachable roots s)
    (built : (b.build root depth s).1 = .ok t) :
    t.Depicts (b.needs answer) root.requirements depth := by
  have formed := upheld_of_reachable (Build.formed b) reachable
  obtain ⟨first, -⟩ := (upheld_build (Build.formed b) formed root depth).2 t built
  have before := upheld_of_reachable (Build.sourced answers) reachable
  have sourced := (upheld_build (Build.sourced answers) before root depth).1
  have kept := upheld_of_reachable (Build.consistent b) reachable
  obtain ⟨formed, shown⟩ := shows_of_kept kept built
  refine ⟨first, fun entry mem licensed => ?_, fun entry mem license => ?_,
    fun entry mem near => ?_⟩
  · obtain ⟨e, kept, -, -, children⟩ := shown _ (Tree.mem_nodes_of_mem_walk mem) licensed
    rw [children, ← sourced.required_eq kept]
  · exact (formed _ (Tree.mem_nodes_of_mem_walk mem)).1.alone license
  · have shaped := (formed _ (Tree.mem_nodes_of_mem_walk mem)).1
    refine shaped.licensed_or.imp_right fun ends => ends.resolve_left fun bare => ?_
    have deep := lt_of_unexpanded reachable built mem bare
    omega

/-- From nothing, a tree attributes just what routes within the depth lead to. -/
theorem attributed_iff_near (built : (b.build root depth (.fresh world)).1 = .ok t)
    (id : ModuleId) :
    id ∈ t.attributed ↔ ∃ r, b.Near answer root depth r ∧ r.id = id := by
  rw [Tree.mem_attributed_iff, ← kept_iff_near answers built id]
  constructor
  · rintro ⟨entry, mem, licensed, rfl⟩
    have shown := (shows_of_kept (s := .fresh world) (Build.consistent b).empty built).2
    obtain ⟨e, kept, -⟩ := shown _ (Tree.mem_nodes_of_mem_walk mem) licensed
    rw [kept]
    exact Option.some_ne_none e
  · intro kept
    obtain ⟨e, kept⟩ := Option.ne_none_iff_exists'.mp kept
    obtain ⟨x, meets, searches, rfl, -⟩ := searched_of_kept kept
    obtain ⟨node, mem, same, shows⟩ := meets.mem_nodes built
    rw [← t.walk_nodes] at mem
    obtain ⟨entry, met, rfl⟩ := List.mem_map.mp mem
    exact ⟨entry, met, Build.licensed_of_searches searches shows, same⟩

end

/-- A build after any history, against one from nothing. The latter succeeds just when nothing within
the depth is in its way, and then so does the former. When the former returns a tree, the latter returns
one that attributes the same modules just when no cycle is revealed to a strict builder and the tree
attributes what routes within the depth lead to. Within the depth it licenses nothing else in any case;
and it licenses all of that, always in a strict build, and in a lenient one unless a cycle was closed
whose module is licensed nowhere as near to the root. -/
theorem history_of_build (answers : b.Answers fun r => answer r.id) (labels : b.Labels label)
    (reachable : b.Reachable roots s) (root : PlacedManifest) (depth : Nat) (world : σ) :
    ((∃ t, (b.build root depth (.fresh world)).1 = .ok t) ↔ b.Viable answer label root depth) ∧
    (b.Viable answer label root depth → ∃ t, (b.build root depth s).1 = .ok t) ∧
    ∀ t, (b.build root depth s).1 = .ok t →
      ((∃ t', (b.build root depth (.fresh world)).1 = .ok t' ∧
          ∀ id, id ∈ t.attributed ↔ id ∈ t'.attributed) ↔
        (b.lenient = false → ¬ ∃ route, route.length ≤ depth ∧
          Route.Reveals (b.needs answer) root.requirements route) ∧
        ∀ id, id ∈ t.attributed ↔ ∃ r, b.Near answer root depth r ∧ r.id = id) ∧
      (∀ id, t.Licenses depth id → ∃ r, b.Near answer root depth r ∧ r.id = id) ∧
      (b.lenient = false → t.Anchored depth) ∧
      (t.Anchored depth → ∀ r, b.Near answer root depth r →
        b.Accepts answer label r.id ∧ t.Licenses depth r.id) := by
  have fresh : (∃ t, (b.build root depth (.fresh world)).1 = .ok t) ↔
      b.Viable answer label root depth := by
    constructor
    · rintro ⟨t, built⟩
      exact viable_of_ok answers labels built
    · intro viable
      have nothing : b.Reachable (fun _ => True) (.fresh world) := .fresh world
      exact exists_ok_of_viable answers labels viable nothing
  refine ⟨fresh, fun viable => exists_ok_of_viable answers labels viable reachable, ?_⟩
  intro t built
  have depicts := depicts_of_build answers reachable built
  have kept := upheld_of_reachable (Build.consistent b) reachable
  obtain ⟨formed, shown⟩ := shows_of_kept kept built
  have accepts : ∀ id, id ∈ t.attributed → b.Accepts answer label id := by
    have upholds := Build.accepted answers labels
    have accepted := (upheld_build upholds (upheld_of_reachable upholds reachable) root depth).1
    intro id mem
    obtain ⟨entry, met, licensed, rfl⟩ := Tree.mem_attributed_iff.mp mem
    obtain ⟨e, kept, -⟩ := shown _ (Tree.mem_nodes_of_mem_walk met) licensed
    exact accepted _ e kept
  refine ⟨⟨?_, ?_⟩, ?_, ?_, ?_⟩
  · rintro ⟨t', built', same⟩
    refine ⟨(viable_of_ok answers labels built').quiet, fun id => ?_⟩
    rw [same, attributed_iff_near answers built']
  · rintro ⟨quiet, attributed⟩
    have viable : b.Viable answer label root depth :=
      ⟨fun r near => accepts r.id ((attributed r.id).mpr ⟨r, near, rfl⟩), quiet⟩
    obtain ⟨t', built'⟩ := fresh.mpr viable
    refine ⟨t', built', fun id => ?_⟩
    rw [attributed, attributed_iff_near answers built']
  · rintro id ⟨entry, mem, near, licensed, rfl⟩
    obtain ⟨route, leads, long⟩ := depicts.exists_route mem
    exact ⟨_, ⟨route, long ▸ near, leads⟩, rfl⟩
  · intro strict entry mem near closes
    have settled := (formed _ (Tree.mem_nodes_of_mem_walk mem)).2 strict
    simp [closes] at settled
  · rintro anchored r ⟨route, short, leads⟩
    have licenses := depicts.licenses anchored (fun _ _ => needs_congr) short leads
    obtain ⟨entry, mem, near, licensed, same⟩ := licenses
    exact ⟨accepts r.id (Tree.mem_attributed_iff.mpr ⟨entry, mem, licensed, same⟩),
      entry, mem, near, licensed, same⟩

/-- What a strict build in the loop comes to for a root that requires its second module, by a builder
that had followed the loop from its first module, but not all around it. -/
def loopedAgain : Except Failure Tree × BuildState Unit :=
  (looped.builder false).build (Chart.manifest "m" ["y"]) 3
    ((looped.builder false).build (Chart.manifest "m" ["x"]) 2 (.fresh ())).2

/-- Whatever routes within the depth lead to is licensed within the depth. -/
theorem history_of_build_looped :
    ∃ t, loopedAgain.1 = .ok t ∧
      t.walk.map (fun entry => (entry.1, entry.2.id, entry.2.license.isSome)) =
        [(1, "y@v1", true), (2, "x@v1", true), (3, "y@v1", true), (4, "x@v1", false)] ∧
      t.Licenses 3 "x@v1" := by
  have walk : loopedAgain.1.toOption.map (fun t =>
      t.walk.map fun entry => (entry.1, entry.2.id, entry.2.license.isSome)) =
        some [(1, "y@v1", true), (2, "x@v1", true), (3, "y@v1", true), (4, "x@v1", false)] := by
    decide +kernel
  obtain ⟨t, built, walk⟩ := exists_ok_of_map walk
  have reachable : (looped.builder false).Reachable (fun _ => True)
      ((looped.builder false).build (Chart.manifest "m" ["x"]) 2 (.fresh ())).2 :=
    .build 2 (.fresh ()) trivial
  obtain ⟨-, -, trees⟩ := history_of_build (looped.builder_answers false)
    (looped.builder_labels false) reachable (Chart.manifest "m" ["y"]) 3 ()
  obtain ⟨-, -, anchored, licenses⟩ := trees t built
  have near : (looped.builder false).Near looped.content (Chart.manifest "m" ["y"]) 3
      (Chart.requirement "x") := ⟨[0, 0], by decide, rfl⟩
  exact ⟨t, built, walk, (licenses (anchored rfl) _ near).2⟩

/-- That build succeeds, but from nothing it does not: the loop is met again within the depth. -/
theorem looped_forgotten :
    (∃ t, loopedAgain.1 = .ok t) ∧
      ¬ ∃ t, ((looped.builder false).build (Chart.manifest "m" ["y"]) 3 (.fresh ())).1 = .ok t := by
  have succeeds : loopedAgain.1.isOk := by decide +kernel
  have fails : ((looped.builder false).build (Chart.manifest "m" ["y"]) 3 (.fresh ())).1.isOk =
      false := by decide +kernel
  constructor
  · cases outcome : loopedAgain.1 with
    | ok t => exact ⟨t, rfl⟩
    | error f =>
        rw [outcome] at succeeds
        cases succeeds
  · rintro ⟨t, built⟩
    rw [built] at fails
    cases fails

end Builder

end Attribution

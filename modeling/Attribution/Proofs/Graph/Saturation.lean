import Mathlib.Data.Set.Card
import Attribution.Proofs.Graph.Afresh
import Attribution.Proofs.Graph.Determinism
import Attribution.Proofs.Graph.Frontier

/-!
Builds whose depth is no bound. No path meets a module twice, so with levels for more modules than
routes from the root lead to, a build never comes to the end of its levels. What it does depends on
differences of levels alone: with any other depth that is large enough it comes to the same, but that
all modules are kept with so many levels more or less.
-/

namespace Attribution

variable {σ : Type}

namespace Cache

def Entry.shift (k : Int) (e : Entry) : Entry := { e with levels := e.levels + k }

/-- The kept modules, each with so many levels more. -/
def shift (k : Int) (c : Cache) : Cache :=
  ⟨c.entries.map fun entry => (entry.1, entry.2.shift k)⟩

theorem mem_shift {c : Cache} {entry : ModuleId × Entry} (h : entry ∈ c.entries) (k : Int) :
    (entry.1, entry.2.shift k) ∈ (c.shift k).entries := List.mem_map_of_mem h

theorem levels_shift (k : Int) (c : Cache) :
    (c.shift k).entries.map (fun entry => (entry.1, entry.2.levels)) =
      (c.entries.map fun entry => (entry.1, entry.2.levels)).map
        fun entry => (entry.1, entry.2 + k) := by
  rw [shift, List.map_map, List.map_map]
  rfl

theorem find?_shift (k : Int) (c : Cache) (id : ModuleId) :
    (c.shift k).find? id = (c.find? id).map (Entry.shift k) := by
  obtain ⟨entries⟩ := c
  induction entries with
  | nil => rfl
  | cons first rest ih =>
      obtain ⟨key, e⟩ := first
      simp only [shift, find?, List.map_cons, lookup_cons] at ih ⊢
      split
      · rfl
      · exact ih

theorem shift_store (k : Int) (c : Cache) (e : Entry) :
    (c.store e).shift k = (c.shift k).store (e.shift k) := by
  have inserted (entries : List (ModuleId × Entry)) :
      (insert e.node.id e entries).map (fun entry => (entry.1, entry.2.shift k)) =
        insert e.node.id (e.shift k) (entries.map fun entry => (entry.1, entry.2.shift k)) := by
    induction entries with
    | nil => rfl
    | cons first rest ih =>
        simp only [insert, List.map_cons]
        split
        · rfl
        · rw [List.map_cons, ih]
  exact congrArg Cache.mk (inserted c.entries)

end Cache

namespace BuildState

/-- One state is like the other, but that all modules are kept with so many levels more. What was
logged may differ. -/
structure Shifted (k : Int) (s s' : BuildState σ) : Prop where
  cache : s'.cache = s.cache.shift k
  stats : s'.stats = s.stats
  asked : s'.asked = s.asked
  labelled : s'.labelled = s.labelled

section
variable {k : Int} {s s' : BuildState σ} (shifted : s.Shifted k s')
include shifted

theorem Shifted.told (level level' : LogLevel) (text text' : String) :
    (s.told level text).Shifted k (s'.told level' text') :=
  ⟨shifted.cache, shifted.stats, shifted.asked, shifted.labelled⟩

theorem Shifted.counted (f : Stats → Stats) : (s.counted f).Shifted k (s'.counted f) :=
  ⟨shifted.cache, congrArg f shifted.stats, shifted.asked, shifted.labelled⟩

theorem Shifted.kept {levels levels' : Nat} (further : (levels' : Int) = levels + k) (node : Node)
    (manifest : Option PlacedManifest) :
    (s.kept node levels manifest).Shifted k (s'.kept node levels' manifest) := by
  refine ⟨?_, shifted.stats, shifted.asked, shifted.labelled⟩
  rw [kept_cache, kept_cache, Cache.shift_store, shifted.cache, Cache.Entry.shift, further]

theorem Shifted.inquired (b : Builder σ) (parent : PlacedManifest) (r : Requirement) :
    (s.inquired b parent r).Shifted k (s'.inquired b parent r) :=
  ⟨shifted.cache, shifted.stats, congrArg (· ++ [r]) shifted.asked, shifted.labelled⟩

theorem Shifted.judged (b : Builder σ) (data : Bytes) :
    (s.judged b data).Shifted k (s'.judged b data) :=
  ⟨shifted.cache, shifted.stats, shifted.asked, congrArg (· ++ [data]) shifted.labelled⟩

theorem Shifted.finish {levels levels' : Nat} (further : (levels' : Int) = levels + k) (d : Draft)
    (r : Requirement) (ns : List Node) :
    (d.finish levels r ns s).Shifted k (d.finish levels' r ns s') := by
  unfold Draft.finish
  split
  · exact (shifted.counted _).kept further _ _
  · split
    · exact shifted
    · exact shifted.kept further _ _

theorem Shifted.closed (o : Except Failure (List Node)) :
    (Builder.closed o s).Shifted k (Builder.closed o s') := by
  cases o with
  | ok ns => exact shifted.told _ _ _ _
  | error f => exact shifted

end

end BuildState

theorem Draft.finish_unexpanded (d : Draft) (levels : Nat) (r : Requirement) (ns : List Node)
    (s : BuildState σ) : (d.finish levels r ns s).stats.unexpanded = s.stats.unexpanded := by
  unfold Draft.finish
  split
  · rfl
  · split <;> rfl

namespace Build

variable {b : Builder σ} {answer : ModuleId → Except Failure Content}
  {name : Bytes → Except Failure String} {parent : PlacedManifest} {r : Requirement}
  {path : List ModuleId} {s s' t u : BuildState σ} {n n' : Nat} {k : Int}
  {rs : List Requirement} {o : Except Failure (List Node)}

theorem Licenses.shift (labels : b.Labels name) {data : Option Bytes} {o : Except Failure License}
    (licenses : Licenses b r data s o t) (shifted : s.Shifted k s') :
    ∃ t', Licenses b r data s' o t' ∧ t.Shifted k t' ∧
      t.stats.unexpanded = s.stats.unexpanded := by
  cases licenses with
  | labelled given label =>
      rw [labels] at label
      exact ⟨_, .labelled given ((labels _ _).trans label), shifted.judged b _, rfl⟩
  | refused given label =>
      rw [labels] at label
      exact ⟨_, .refused given ((labels _ _).trans label), shifted.judged b _, rfl⟩
  | placeholder blank mode =>
      exact ⟨_, .placeholder blank mode, (shifted.told _ _ _ _).counted _, rfl⟩
  | missing blank mode => exact ⟨_, .missing blank mode, shifted, rfl⟩

theorem Settles.shift (labels : b.Labels name) {verdict : Verdict} {opening : Opening}
    (settled : Settles b r n s verdict opening t) (shifted : s.Shifted k s')
    (further : (n' : Int) = n + k) :
    ∃ t', Settles b r n' s' verdict opening t' ∧ t.Shifted k t' ∧
      t.stats.unexpanded = s.stats.unexpanded := by
  cases settled with
  | failed => exact ⟨_, .failed, shifted, rfl⟩
  | skipped =>
      exact ⟨_, .skipped, ((shifted.told _ _ _ _).counted _).kept further _ _, rfl⟩
  | unlicensed run =>
      obtain ⟨t', licenses, shifted, same⟩ := (licenses_of_run run).shift labels shifted
      exact ⟨_, .unlicensed licenses.run, shifted, same⟩
  | leaf run alone =>
      obtain ⟨t', licenses, shifted, same⟩ := (licenses_of_run run).shift labels shifted
      exact ⟨_, .leaf licenses.run alone, ((shifted.told _ _ _ _).counted _).kept further _ _, same⟩
  | found run known =>
      obtain ⟨t', licenses, shifted, same⟩ := (licenses_of_run run).shift labels shifted
      exact ⟨_, .found licenses.run known, shifted.told _ _ _ _, same⟩

section
variable (answers : b.Answers fun r => answer r.id) (labels : b.Labels name)
include answers labels

/-- With levels left on either side, a requirement is opened alike. -/
theorem Opens.shift {opening : Opening} (opens : Opens b parent r path s (n + 1) opening t)
    (shifted : s.Shifted k s') (further : ((n' + 1 : Nat) : Int) = (n + 1 : Nat) + k) :
    ∃ t', Opens b parent r path s' (n' + 1) opening t' ∧ t.Shifted k t' ∧
      t.stats.unexpanded = s.stats.unexpanded := by
  have entered : (s.entered r).Shifted k (s'.entered r) := shifted.told _ _ _ _
  have kept (id : ModuleId) : s'.cache.find? id = (s.cache.find? id).map (Cache.Entry.shift k) := by
    rw [shifted.cache, Cache.find?_shift]
  cases opens with
  | cycle again mode => exact ⟨_, .cycle again mode, (entered.told _ _ _ _).counted _, rfl⟩
  | cycleError again mode => exact ⟨_, .cycleError again mode, entered, rfl⟩
  | @shared _ e new hit enough =>
      have hit' : s'.cache.find? r.id = some (e.shift k) := by rw [kept, hit, Option.map_some]
      have enough' : (e.shift k).manifest = none ∨ (n' + 1 : Nat) ≤ (e.shift k).levels :=
        enough.imp_right fun far => by
          simp only [Cache.Entry.shift]
          omega
      exact ⟨_, .shared (e := e.shift k) new hit' enough', entered.counted _, rfl⟩
  | @deepen _ e m new hit known few =>
      have hit' : s'.cache.find? r.id = some (e.shift k) := by rw [kept, hit, Option.map_some]
      have few' : (e.shift k).levels < (n' + 1 : Nat) := by
        simp only [Cache.Entry.shift]
        omega
      exact ⟨_, .deepen (e := e.shift k) new hit' known few', (entered.counted _).told _ _ _ _, rfl⟩
  | search new miss settled =>
      have miss' : s'.cache.find? r.id = none := by rw [kept, miss, Option.map_none]
      rw [b.verdict_eq answers] at settled
      obtain ⟨t', settled', shifted, same⟩ :=
        settled.shift labels (entered.inquired b parent r) further
      refine ⟨t', .search new miss' ?_, shifted, same⟩
      rw [b.verdict_eq answers]
      exact settled'

end

/-- A path of modules of a set, each once, with levels left for more modules than the set has. -/
structure Roomy (ids : Set ModuleId) (path : List ModuleId) (n : Nat) : Prop where
  once : path.Nodup
  inside : ∀ id ∈ path, id ∈ ids
  levels : ids.ncard < n + path.length

section
variable {ids : Set ModuleId}

theorem Roomy.exists_succ (roomy : Roomy ids path n) (finite : ids.Finite) : ∃ m, n = m + 1 := by
  have fits : path.length ≤ ids.ncard := by
    rw [← List.toFinset_card_of_nodup roomy.once, ← Set.ncard_coe_finset]
    refine Set.ncard_le_ncard (fun id h => ?_) finite
    exact roomy.inside id (List.mem_toFinset.mp h)
  have levels := roomy.levels
  exact ⟨n - 1, by omega⟩

theorem Roomy.enter {id : ModuleId} (roomy : Roomy ids path (n + 1)) (new : id ∉ path)
    (mem : id ∈ ids) : Roomy ids (path ++ [id]) n := by
  refine ⟨?_, ?_, ?_⟩
  · rw [← List.concat_eq_append]
    exact List.Nodup.concat new roomy.once
  · exact List.forall_mem_append.mpr ⟨roomy.inside, List.forall_mem_singleton.mpr mem⟩
  · have levels := roomy.levels
    rw [List.length_append, List.length_singleton]
    omega

variable (answers : b.Answers fun r => answer r.id) (labels : b.Labels name)
  (finite : ids.Finite) (closed : ∀ r, r.id ∈ ids → ∀ q ∈ b.needs answer r, q.id ∈ ids)
include answers closed

theorem Opens.inside {d : Draft} (opens : Opens b parent r path s n (.expand d) t)
    (sourced : s.cache.Sourced (b.known answer)) (mem : r.id ∈ ids) :
    ∀ q ∈ d.manifest.requirements, q.id ∈ ids := by
  rw [← opens.needs_of_expand answers sourced]
  exact closed r mem

include labels finite

/-- A run that has room comes to the same with any other number of levels that leaves room, and never
to the end of its levels. The induction follows the run: whenever it goes down a level, the path takes
up another one of finitely many modules, so that there is room below as well. -/
theorem Expands.shift (run : Expands b n path parent rs s o t)
    (sourced : s.cache.Sourced (b.known answer)) (given : ∀ r ∈ rs, r.id ∈ ids)
    (roomy : Roomy ids path n) (roomy' : Roomy ids path n') (further : (n' : Int) = n + k)
    (shifted : s.Shifted k s') :
    ∃ t', Expands b n' path parent rs s' o t' ∧ t.Shifted k t' ∧
      t.stats.unexpanded = s.stats.unexpanded := by
  induction run generalizing n' s' with
  | nil => exact ⟨s', .nil, shifted, rfl⟩
  | halt opens =>
      obtain ⟨m, rfl⟩ := roomy.exists_succ finite
      obtain ⟨m', rfl⟩ := roomy'.exists_succ finite
      obtain ⟨t', opens, shifted, same⟩ := opens.shift answers labels shifted further
      exact ⟨t', .halt opens, shifted, same⟩
  | pass opens after ih =>
      obtain ⟨m, rfl⟩ := roomy.exists_succ finite
      obtain ⟨m', rfl⟩ := roomy'.exists_succ finite
      obtain ⟨t', opens', shifted, here⟩ := opens.shift answers labels shifted further
      obtain ⟨u', after, shifted, later⟩ := ih (opens.sourced answers sourced)
        (fun q hq => given q (List.mem_cons_of_mem _ hq)) roomy roomy' further shifted
      exact ⟨u', .pass opens' after, shifted, later.trans here⟩
  | sink opens below ih =>
      obtain ⟨m', rfl⟩ := roomy'.exists_succ finite
      obtain ⟨t', opens', shifted, here⟩ := opens.shift answers labels shifted further
      have mem := given _ List.mem_cons_self
      have inside := opens.inside answers closed sourced mem
      have new := opens.of_expand.2.1
      obtain ⟨u', below, shifted, deeper⟩ := ih (opens.sourced answers sourced) inside
        (roomy.enter new mem) (roomy'.enter new mem) (by omega) shifted
      exact ⟨u', .sink opens' below, shifted, deeper.trans here⟩
  | rise opens below after ihBelow ihAfter =>
      obtain ⟨m', rfl⟩ := roomy'.exists_succ finite
      obtain ⟨t', opens', shifted, here⟩ := opens.shift answers labels shifted further
      have mem := given _ List.mem_cons_self
      have inside := opens.inside answers closed sourced mem
      have new := opens.of_expand.2.1
      have within := opens.sourced answers sourced
      obtain ⟨u', below', shifted, deeper⟩ := ihBelow within inside
        (roomy.enter new mem) (roomy'.enter new mem) (by omega) shifted
      obtain ⟨v', after, shifted, later⟩ := ihAfter
        (opens.sourced_finish answers sourced (below.sourced answers within) _)
        (fun q hq => given q (List.mem_cons_of_mem _ hq)) roomy roomy' further
        (shifted.finish further _ _ _)
      refine ⟨v', .rise opens' below' after, shifted, ?_⟩
      rw [later, Draft.finish_unexpanded, deeper, here]

end

end Build

namespace Builder

variable {b : Builder σ} {answer : ModuleId → Except Failure Content}
  {name : Bytes → Except Failure String} {root : PlacedManifest} {depth depth' : Int}

/-- The modules that routes from a root lead to. -/
def modules (b : Builder σ) (answer : ModuleId → Except Failure Content) (root : PlacedManifest) :
    Set ModuleId :=
  {id | ∃ r, Met (· = root) (b.needs answer) r ∧ r.id = id}

theorem modules_closed {r q : Requirement} (mem : r.id ∈ b.modules answer root)
    (h : q ∈ b.needs answer r) : q.id ∈ b.modules answer root := by
  obtain ⟨p, met, same⟩ := mem
  exact ⟨q, met.step (by rwa [needs_congr same]), rfl⟩

section
variable (answers : b.Answers fun r => answer r.id) (labels : b.Labels name)
  (finite : (b.modules answer root).Finite) (more : (b.modules answer root).ncard < depth)
  (more' : (b.modules answer root).ncard < depth') (world world' : σ)
include answers labels finite more more'

/-- Past the number of modules, builds to any two depths come to the same. -/
theorem build_shifted :
    (b.build root depth' (.fresh world')).1 = (b.build root depth (.fresh world)).1 ∧
      (b.build root depth (.fresh world)).2.Shifted (depth' - depth)
        (b.build root depth' (.fresh world')).2 ∧
      (b.build root depth (.fresh world)).2.stats.unexpanded = 0 := by
  obtain ⟨n, rfl⟩ : ∃ n : Nat, depth = n := ⟨depth.toNat, by omega⟩
  obtain ⟨n', rfl⟩ : ∃ n : Nat, depth' = n := ⟨depth'.toNat, by omega⟩
  have fresh : (BuildState.fresh world).Shifted ((n' : Int) - n) (.fresh world') :=
    ⟨rfl, rfl, rfl, rfl⟩
  have roomy {k : Nat} (more : (b.modules answer root).ncard < (k : Int)) :
      Build.Roomy (b.modules answer root) [] k :=
    ⟨List.nodup_nil, nofun, Int.ofNat_lt.mp more⟩
  obtain ⟨o, t, run, result⟩ := b.expands_build root n (.fresh world)
  obtain ⟨t', run', shifted, same⟩ := run.shift answers labels finite
    (fun _ mem _ h => modules_closed mem h) nofun (fun r hr => ⟨r, .first rfl hr, rfl⟩)
    (roomy more) (roomy more') (by omega) (fresh.told .debug .debug _ _)
  rw [result, build_of_expands run']
  exact ⟨rfl, shifted.closed o, by rw [closed_stats, same]; rfl⟩

end

/-- Past the number of modules that routes from the root lead to, the depth of a build on a fresh
builder is no bound: a build to any other such depth comes to the same tree or the same failure, has
asked for the same content and for the same labels, has the same counts, and keeps the same modules
with as many levels more as its depth is larger. Nothing is left unexpanded: the traversal never
came to the end of its levels, and neither a kept module nor the tree has an unexpanded node. -/
theorem saturated_of_build (answers : b.Answers fun r => answer r.id) (labels : b.Labels name)
    (finite : (b.modules answer root).Finite) (more : (b.modules answer root).ncard < depth)
    (more' : (b.modules answer root).ncard < depth') (world world' : σ) :
    (b.build root depth' (.fresh world')).1 = (b.build root depth (.fresh world)).1 ∧
    (b.build root depth (.fresh world)).2.Shifted (depth' - depth)
      (b.build root depth' (.fresh world')).2 ∧
    (b.build root depth (.fresh world)).2.stats.unexpanded = 0 ∧
    (∀ entry ∈ (b.build root depth (.fresh world)).2.cache.entries,
      ∀ place ∈ Node.preorder 0 entry.2.node, place.2.resolution ≠ .unexpanded) ∧
    ∀ t, (b.build root depth (.fresh world)).1 = .ok t →
      ∀ place ∈ t.walk, place.2.resolution ≠ .unexpanded := by
  obtain ⟨outcome, shifted, counts⟩ :=
    build_shifted answers labels finite more more' world world'
  have fresh : b.Reachable (· = root) (.fresh world) := .fresh world
  refine ⟨outcome, shifted, counts, ?_, ?_⟩
  -- An unexpanded node would lie deeper than the build went, but one that goes deeper still comes to
  -- the same nodes.
  · intro entry kept place within bare
    have further : (b.modules answer root).ncard <
        depth + (place.1 + 1 + (-entry.2.levels).toNat) := by omega
    obtain ⟨-, shifted, -⟩ := build_shifted answers labels finite more further world world
    have moved := Cache.mem_shift kept
      (depth + (place.1 + 1 + (-entry.2.levels).toNat) - depth)
    rw [← shifted.cache] at moved
    have deep := levels_le_of_unexpanded (.build _ fresh rfl) moved within bare
    simp only [Cache.Entry.shift] at deep
    omega
  · intro t built place met bare
    have further : (b.modules answer root).ncard < depth + place.1 := by omega
    obtain ⟨outcome, -⟩ := build_shifted answers labels finite more further world world
    have deep := lt_of_unexpanded fresh (outcome.trans built) met bare
    omega

/-- A lenient build in the winding graph, which has three modules. -/
def windingTo (depth : Int) : Except Failure Tree × BuildState Unit :=
  (winding.builder true).build (Chart.manifest "m" ["a", "c"]) depth (.fresh ())

theorem winding_modules :
    (winding.builder true).modules winding.content (Chart.manifest "m" ["a", "c"]) ⊆
      (["a@v1", "c@v1", "d@v1"].toFinset : Set ModuleId) := by
  have first : ∀ r ∈ (Chart.manifest "m" ["a", "c"]).requirements,
      r.id ∈ ["a@v1", "c@v1", "d@v1"] := by decide
  have step : ∀ id ∈ ["a@v1", "c@v1", "d@v1"], ∀ q ∈ (Chart.manifest id (winding id)).requirements,
      q.id ∈ ["a@v1", "c@v1", "d@v1"] := by decide
  rintro id ⟨r, met, rfl⟩
  rw [List.coe_toFinset]
  exact met.induction (P := fun r => r.id ∈ ["a@v1", "c@v1", "d@v1"])
    (by rintro _ r rfl h; exact first r h) fun r q mem h => step r.id mem q h

/-- What is kept by a build a million levels deep, by what is kept by one to the fourth level. -/
theorem saturated_of_build_winding :
    (windingTo 1000000).1 = (windingTo 4).1 ∧
      (windingTo 1000000).2.cache.entries.map (fun entry => (entry.1, entry.2.levels)) =
        [("d@v1", 999999), ("c@v1", 1000000), ("a@v1", 1000000)] := by
  have few : ((winding.builder true).modules winding.content
      (Chart.manifest "m" ["a", "c"])).ncard ≤ 3 := by
    refine (Set.ncard_le_ncard winding_modules (Finset.finite_toSet _)).trans ?_
    rw [Set.ncard_coe_finset]
    exact List.toFinset_card_le _
  have kept : (windingTo 4).2.cache.entries.map (fun entry => (entry.1, entry.2.levels)) =
      [("d@v1", 3), ("c@v1", 4), ("a@v1", 4)] := by decide +kernel
  obtain ⟨outcome, shifted, -⟩ := saturated_of_build (winding.builder_answers true)
    (winding.builder_labels true) ((Finset.finite_toSet _).subset winding_modules)
    (show _ < (4 : Int) by omega) (show _ < (1000000 : Int) by omega) () ()
  rw [windingTo] at kept
  refine ⟨outcome, ?_⟩
  rw [windingTo, shifted.cache, Cache.levels_shift, kept]
  rfl

end Builder

end Attribution

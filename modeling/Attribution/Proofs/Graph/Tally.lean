import Attribution.Proofs.Graph.Order
import Attribution.Proofs.Graph.Route

/-!
What a build counts. A run that succeeds keeps one new entry for each module it asks for, counts
those that are not skipped as resolved, and has the license text of each resolved or leaf module
labelled once. With the order of its questions this gives the account of a build that starts with
nothing.
-/

namespace Attribution

variable {σ : Type}

namespace Cache

/-- What stays as it is once a module is kept: its license, and how it was resolved. -/
abbrev Fact := Option License × Resolution

def Entry.fact (e : Entry) : Fact := (e.node.license, e.node.resolution)

def facts (c : Cache) : List Fact := c.entries.map (·.2.fact)

private theorem facts_insert_new (e : Entry) {id : ModuleId} {entries : List (ModuleId × Entry)}
    (miss : entries.lookup id = none) :
    (insert id e entries).map (·.2.fact) = entries.map (·.2.fact) ++ [e.fact] := by
  induction entries with
  | nil => rfl
  | cons x rest ih =>
      obtain ⟨key, old⟩ := x
      rw [lookup_cons] at miss
      split at miss
      next => cases miss
      next other =>
        rw [insert, if_neg (Ne.symm other), List.map_cons, ih miss, List.map_cons, List.cons_append]

private theorem facts_insert_old {e old : Entry} {id : ModuleId}
    {entries : List (ModuleId × Entry)} (hit : entries.lookup id = some old)
    (same : e.fact = old.fact) : (insert id e entries).map (·.2.fact) = entries.map (·.2.fact) := by
  induction entries with
  | nil => cases hit
  | cons x rest ih =>
      obtain ⟨key, first⟩ := x
      rw [lookup_cons] at hit
      split at hit
      next here =>
        cases hit
        rw [insert, if_pos here.symm, List.map_cons, List.map_cons, same]
      next other =>
        rw [insert, if_neg (Ne.symm other), List.map_cons, ih hit, List.map_cons]

theorem facts_store_new {c : Cache} {e : Entry} (miss : c.find? e.node.id = none) :
    (c.store e).facts = c.facts ++ [e.fact] := facts_insert_new e miss

theorem facts_store_old {c : Cache} {e old : Entry} (hit : c.find? e.node.id = some old)
    (same : e.fact = old.fact) : (c.store e).facts = c.facts := facts_insert_old hit same

end Cache

namespace Build

variable {b : Builder σ} {parent : PlacedManifest} {r : Requirement} {path : List ModuleId}
  {s t u v : BuildState σ} {n : Nat} {rs : List Requirement} {o : Except Failure (List Node)}

/-- The texts that were labelled for modules, none where such a module has no license. -/
def labels (facts : List Cache.Fact) : List (Option Bytes) :=
  (facts.filter (·.2 ∈ [Resolution.resolved, .leaf])).map fun fact => fact.1.map License.data

theorem labels_singleton (license : Option License) (resolution : Resolution) :
    labels [(license, resolution)] =
      if resolution ∈ [Resolution.resolved, .leaf] then [license.map License.data] else [] := by
  simp only [labels, List.filter_cons, decide_eq_true_eq]
  split <;> rfl

theorem labels_append (xs ys : List Cache.Fact) : labels (xs ++ ys) = labels xs ++ labels ys := by
  rw [labels, List.filter_append, List.map_append, labels, labels]

/-- What a stretch of a run adds to the counts when it keeps new modules. -/
structure Gains (s t : BuildState σ) (added : List Cache.Fact) : Prop where
  facts : t.cache.facts = s.cache.facts ++ added
  asked : t.asked.length = s.asked.length + added.length
  resolved : t.stats.resolved = s.stats.resolved + added.countP (·.2 ≠ .skipped)
  labelled : (t.labelled.map some).Perm (s.labelled.map some ++ labels added)

theorem Gains.nil (cache : t.cache = s.cache) (asked : t.asked = s.asked)
    (resolved : t.stats.resolved = s.stats.resolved) (labelled : t.labelled = s.labelled) :
    Gains s t [] :=
  ⟨by simp [cache], by simp [asked], by simp [resolved], by simp [labelled, labels]⟩

theorem Gains.append {xs ys : List Cache.Fact} (first : Gains s t xs) (second : Gains t u ys) :
    Gains s u (xs ++ ys) := by
  refine ⟨?_, ?_, ?_, ?_⟩
  · rw [second.facts, first.facts, List.append_assoc]
  · rw [second.asked, first.asked, List.length_append, Nat.add_assoc]
  · rw [second.resolved, first.resolved, List.countP_append, Nat.add_assoc]
  · have both := second.labelled.trans (first.labelled.append_right (labels ys))
    rwa [List.append_assoc, ← labels_append] at both

theorem licenseFor_labelled {content : Content} {l : License}
    (run : (licenseFor b r content.license).run.run s = (.ok l, t)) :
    t.labelled.map some =
      s.labelled.map some ++ labels [(some l, resolutionOf content)] := by
  cases licenses_of_run run with
  | labelled given label =>
      have resolution : resolutionOf content ∈ [Resolution.resolved, .leaf] := by
        simp only [resolutionOf, given]
        split <;> decide
      simp [labels_singleton, -List.mem_cons, resolution]
  | placeholder blank mode =>
      have resolution : resolutionOf content ∉ [Resolution.resolved, .leaf] := by
        unfold resolutionOf
        split
        next h => exact absurd h (blank _ _)
        next => decide
      simp [labels_singleton, -List.mem_cons, resolution]

theorem resolutionOf_ne_skipped (content : Content) : resolutionOf content ≠ .skipped := by
  unfold resolutionOf
  split
  · split <;> nofun
  · nofun

theorem Settles.gains_of_done {levels : Nat} {verdict : Verdict} {node : Node}
    (settled : Settles b r levels s verdict (.done (.ok node)) t)
    (miss : s.cache.find? r.id = none) :
    ∃ fact, t.cache.facts = s.cache.facts ++ [fact] ∧
      t.stats.resolved = s.stats.resolved + [fact].countP (·.2 ≠ .skipped) ∧
      t.labelled.map some = s.labelled.map some ++ labels [fact] := by
  cases settled with
  | skipped =>
      refine ⟨_, Cache.facts_store_new (e := ⟨_, _, _⟩) miss, ?_, ?_⟩
      · simp [Cache.Entry.fact]
      · simp [labels, Cache.Entry.fact]
  | leaf run alone =>
      obtain ⟨cache, -, resolved⟩ := licenseFor_frame run
      refine ⟨_, (Cache.facts_store_new (e := ⟨_, _, _⟩) ?_).trans (by rw [← cache]; rfl), ?_, ?_⟩
      · exact (congrArg (Cache.find? · r.id) cache).trans miss
      · simp [resolved, resolutionOf_ne_skipped, Cache.Entry.fact]
      · rw [BuildState.kept_labelled, BuildState.counted_labelled, BuildState.told_labelled]
        exact licenseFor_labelled run

theorem Settles.tally_of_expand {levels : Nat} {verdict : Verdict} {d : Draft}
    (settled : Settles b r levels s verdict (.expand d) t) :
    t.stats.resolved = s.stats.resolved ∧ d.resolution ≠ .skipped ∧
      t.labelled.map some = s.labelled.map some ++ labels [(d.license, d.resolution)] := by
  cases settled with
  | found run known =>
      obtain ⟨-, -, resolved⟩ := licenseFor_frame run
      exact ⟨resolved, resolutionOf_ne_skipped _, (licenseFor_labelled run :)⟩

theorem Opens.tally_of_new {d : Draft} (opens : Opens b parent r path s n (.expand d) t)
    (new : d.former = none) :
    t.stats.resolved = s.stats.resolved ∧ d.resolution ≠ .skipped ∧
      t.labelled.map some = s.labelled.map some ++ labels [(d.license, d.resolution)] := by
  cases opens with
  | deepen => cases new
  | search _ _ settled => exact settled.tally_of_expand

theorem Opens.tally_of_old {d : Draft} {old : List Node}
    (opens : Opens b parent r path s n (.expand d) t) (former : d.former = some old) :
    t.stats.resolved = s.stats.resolved ∧ t.labelled = s.labelled := by
  cases opens with
  | deepen => exact ⟨rfl, rfl⟩
  | search _ _ settled =>
      obtain ⟨-, -, new, -⟩ := settled.of_expand
      rw [new] at former
      cases former

theorem Opens.gains_of_done {node : Node} (opens : Opens b parent r path s n (.done (.ok node)) t) :
    ∃ added, Gains s t added := by
  cases opens with
  | bare | cycle | shared => exact ⟨[], .nil rfl rfl rfl rfl⟩
  | search new miss settled =>
      obtain ⟨asked, -⟩ := settled.of_done
      obtain ⟨fact, facts, resolved, labelled⟩ := settled.gains_of_done miss
      exact ⟨[fact], facts, by simp [asked], resolved, .of_eq labelled⟩

private theorem finish_new {d : Draft} (new : d.former = none) (levels : Nat) (r : Requirement)
    (ns : List Node) (s : BuildState σ) :
    d.finish levels r ns s =
      (s.counted fun c => { c with resolved := c.resolved + 1 }).kept (d.node r ns) levels
        (some d.manifest) := by
  simp only [Draft.finish, new]

private theorem finish_old {d : Draft} {old : List Node} (former : d.former = some old)
    (levels : Nat) (r : Requirement) (ns : List Node) (s : BuildState σ) :
    (d.finish levels r ns s).stats = s.stats ∧ (d.finish levels r ns s).labelled = s.labelled := by
  simp only [Draft.finish, former]
  split <;> exact ⟨rfl, rfl⟩

/-- A module whose dependencies were looked into adds itself after them if it is new, and nothing
otherwise. -/
theorem Opens.gains_of_finish {d : Draft} {ns : List Node} {added : List Cache.Fact}
    (opens : Opens b parent r path s (n + 1) (.expand d) t)
    (below : Expands b n (path ++ [r.id]) d.manifest d.manifest.requirements t (.ok ns) u)
    (gains : Gains t u added) : ∃ more, Gains s (d.finish (n + 1) r ns u) more := by
  have same := opens.find?_below below
  obtain ⟨cache, -, new | ⟨e, hit, asked, -, -, license, resolution, former⟩⟩ := opens.of_expand
  · obtain ⟨miss, asked, former, -⟩ := new
    obtain ⟨resolved, proper, labelled⟩ := opens.tally_of_new former
    rw [finish_new former]
    refine ⟨added ++ [(d.license, d.resolution)], ?_, ?_, ?_, ?_⟩
    · rw [BuildState.kept_cache, BuildState.counted_cache, Cache.facts_store_new (same.trans miss),
        gains.facts, cache, List.append_assoc]
      rfl
    · simp only [BuildState.kept_asked, BuildState.counted_asked, gains.asked, asked,
        List.length_append, List.length_singleton]
      omega
    · simp [gains.resolved, resolved, proper, Nat.add_assoc]
    · have both := gains.labelled
      rw [labelled, List.append_assoc] at both
      rw [labels_append]
      exact both.trans (List.perm_append_comm.append_left _)
  · obtain ⟨resolved, labelled⟩ := opens.tally_of_old former
    obtain ⟨stats, others⟩ := finish_old former (n + 1) r ns u
    refine ⟨added, ?_, ?_, ?_, ?_⟩
    · rw [← cache, ← gains.facts]
      refine Draft.finish_induction (P := fun c => c.facts = u.cache.facts) ?_ rfl
      exact Cache.facts_store_old (same.trans hit) (by simp [Cache.Entry.fact, Draft.node, *])
    · rw [Draft.finish_asked, gains.asked, asked]
    · rw [stats, gains.resolved, resolved]
    · rw [others, ← labelled]
      exact gains.labelled

/-- A run that succeeds asks for as many modules as it adds, and counts and labels those. -/
theorem Expands.gains (run : Expands b n path parent rs s o t) {ns : List Node} (ok : o = .ok ns) :
    ∃ added, Gains s t added := by
  induction run generalizing ns with
  | nil => exact ⟨[], .nil rfl rfl rfl rfl⟩
  | halt _ | sink _ _ _ => cases ok
  | @pass n path parent r rest s t u node o opens after ih =>
      cases o with
      | error f => cases ok
      | ok ms =>
          obtain ⟨added, first⟩ := opens.gains_of_done
          obtain ⟨more, second⟩ := ih rfl
          exact ⟨added ++ more, first.append second⟩
  | @rise n path parent r rest s t u v d ms o opens below after ihBelow ihAfter =>
      cases o with
      | error f => cases ok
      | ok rest =>
          obtain ⟨inner, gains⟩ := ihBelow rfl
          obtain ⟨added, first⟩ := opens.gains_of_finish below gains
          obtain ⟨more, second⟩ := ihAfter rfl
          exact ⟨added ++ more, first.append second⟩

end Build

namespace Builder

open Build

/-- A build asks for no module twice, and for none that is kept when it begins, whatever happened
before and however it ends. If it begins with nothing and succeeds, it asks for the licensed modules
of its tree in the order of their first places, keeps one entry for each question, counts the
entries that are not skipped as resolved, and has the text of every resolved or leaf entry labelled
once. -/
theorem asked_of_build (b : Builder σ) (root : PlacedManifest) (depth : Int) :
    (∀ s : BuildState σ, ∃ qs, (b.build root depth s).2.asked = s.asked ++ qs ∧
      (qs.map Requirement.id).Nodup ∧ ∀ q ∈ qs, s.cache.contains q.id = false) ∧
    ∀ (world : σ) (t : Tree) (s : BuildState σ), b.build root depth (.fresh world) = (.ok t, s) →
      s.asked.map Requirement.id =
        ((t.walk.filter (·.2.license.isSome)).map (·.2.id)).eraseDups ∧
      s.cache.size = s.asked.length ∧
      s.stats.resolved = s.cache.entries.countP (·.2.node.resolution ≠ .skipped) ∧
      (s.labelled.map some).Perm
        ((s.cache.entries.filter (·.2.node.resolution ∈ [Resolution.resolved, .leaf])).map
          fun entry => entry.2.node.license.map License.data) := by
  by_cases neg : depth < 0
  · simp only [b.build_of_neg root depth _ neg]
    exact ⟨fun s => ⟨[], by simp⟩, nofun⟩
  · obtain ⟨depth, rfl⟩ := Int.eq_ofNat_of_zero_le (by omega : 0 ≤ depth)
    refine ⟨fun s => ?_, fun world t s build => ?_⟩
    · obtain ⟨o, t, run, result⟩ := b.expands_build root depth s
      obtain ⟨qs, ⟨asked, nodup, new⟩, -⟩ := run.asks
      refine ⟨qs, by rw [result, closed_asked, asked, BuildState.told_asked], nodup, fun q hq => ?_⟩
      rw [Cache.contains, ← BuildState.told_cache, (new q hq).1]
      rfl
    · obtain ⟨o, u, run, result⟩ := b.expands_build root depth (.fresh world)
      rw [result] at build
      obtain ⟨outcome, rfl⟩ := Prod.mk.inj build
      cases o with
      | error f => cases outcome
      | ok ns =>
          cases outcome
          obtain ⟨-, order⟩ := run.order rfl ((Orderly.fresh world).congr rfl rfl)
          obtain ⟨added, facts, asked, resolved, labelled⟩ := run.gains rfl
          have kept : u.cache.entries.map (·.2.fact) = added := facts
          subst kept
          refine ⟨?_, ?_, ?_, ?_⟩
          · have walk := congrArg (List.map Node.id) (Tree.over root ns).licensed_walk
            rw [List.map_map] at walk
            exact order.trans (congrArg List.eraseDups walk.symm)
          · simpa [Cache.size, BuildState.fresh] using asked.symm
          · simpa [List.countP_map, BuildState.fresh, Stats.zero, Function.comp_def,
              Cache.Entry.fact] using resolved
          · simpa [labels, List.filter_map, BuildState.fresh, Function.comp_def,
              Cache.Entry.fact] using labelled

/-- A module that is required by two others, and one that is required by it. -/
def diamond : Chart := fun id => if id = "d@v1" then ["e"] else if id = "e@v1" then [] else ["d"]

/-- The state and the outcome of a build in the diamond, to the depth of its last module. -/
def diamondBuild : Except Failure Tree × BuildState Unit :=
  (diamond.builder true).build (Chart.manifest "m" ["a", "c"]) 3 (.fresh ())

/-- What is required twice is asked for once, right after what required it first. -/
theorem asked_of_build_diamond :
    ∃ t s, diamondBuild = (.ok t, s) ∧
      ((t.walk.filter (·.2.license.isSome)).map (·.2.id)).eraseDups =
        ["a@v1", "d@v1", "e@v1", "c@v1"] ∧
      s.cache.size = 4 := by
  have succeeds : diamondBuild.1.isOk := by decide +kernel
  have asked : diamondBuild.2.asked.map Requirement.id = ["a@v1", "d@v1", "e@v1", "c@v1"] := by
    decide +kernel
  rcases build : diamondBuild with ⟨f | t, s⟩
  · rw [build] at succeeds
    cases succeeds
  · rw [build] at asked
    obtain ⟨order, size, -⟩ := (asked_of_build _ _ _).2 () t s build
    refine ⟨t, s, rfl, order ▸ asked, ?_⟩
    rw [size, ← List.length_map Requirement.id, asked]
    rfl

end Builder

end Attribution

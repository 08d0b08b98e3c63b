import Attribution.Proofs.Graph.Encounter
import Attribution.Proofs.Graph.Reach

/-!
Which cycles a strict build meets. A cycle is met along a route when the route is the first to lead
to each of its modules, down to the one that was met on it before. Behind a module that a route met
earlier and expanded as far, a cycle stays hidden: the kept module is taken as it is.
-/

namespace Attribution

variable {σ : Type}

def Failure.Cyclic (f : Failure) : Prop := ∃ p ids, f = .problem p ∧ p.kind = .cycle ids

theorem Failure.cyclic_forModule {f : Failure} {v : ModuleVersion} (h : (f.forModule v).Cyclic) :
    f.Cyclic := by
  obtain ⟨p, ids, same, kind⟩ := h
  cases f with
  | fault => cases same
  | problem p =>
      cases same
      exact ⟨p, ids, rfl, (p.withModule_kind v).symm.trans kind⟩

theorem Verdict.of_fail {lenient : Bool} {v : ModuleVersion} {found : Except Failure Content}
    {f : Failure} (h : Verdict.of lenient v found = .fail f) :
    ∃ g, found = .error g ∧ f = g.forModule v := by
  match found with
  | .ok content => cases h
  | .error (.fault g) =>
      cases h
      exact ⟨_, rfl, rfl⟩
  | .error (.problem p) =>
      simp only [Verdict.of] at h
      split at h
      · cases h
      · split at h <;> cases h
        exact ⟨_, rfl, rfl⟩

/-- Neither the resolver nor the classifier reports a cycle of its own. -/
structure Builder.Plain (b : Builder σ) (answer : ModuleId → Except Failure Content) : Prop where
  resolver : ∀ id f, answer id = .error f → ¬ f.Cyclic
  classifier : ∀ data scene f, ((b.classifier data).run.run scene).1 = .error f → ¬ f.Cyclic

/-- Whatever is asked for is found with a license text, and every text is labelled. -/
structure Builder.Finds (b : Builder σ) (answer : ModuleId → Except Failure Content) : Prop where
  resolver : ∀ id, ∃ content byte bytes, answer id = .ok content ∧
    content.license = some (byte :: bytes)
  classifier : ∀ data scene, ∃ name, ((b.classifier data).run.run scene).1 = .ok name

theorem Builder.Finds.plain {b : Builder σ} {answer : ModuleId → Except Failure Content}
    (finds : b.Finds answer) : b.Plain answer where
  resolver id f failed := by
    obtain ⟨content, byte, bytes, found, -⟩ := finds.resolver id
    exact nomatch found.symm.trans failed
  classifier data scene f failed := by
    obtain ⟨name, labelled⟩ := finds.classifier data scene
    exact nomatch labelled.symm.trans failed

/-- A route that meets a cycle first: no other route comes before it to any of its modules, down to
the one that was met on it before. -/
def Route.Reveals (next : Requirement → List Requirement) (rs : List Requirement) (route : Route) :
    Prop :=
  Closes next rs route ∧ ∀ earlier, earlier <+: route → earlier ≠ route → Leading next rs earlier

namespace Build

/-- A route that a run with so many levels left, on the given path, follows until it meets a module
of the path or of the route again: no module before the last one is on the path, expanded far
enough, or met by a route that is taken before. -/
structure Exposes (next : Requirement → List Requirement) (path : List ModuleId)
    (rs : List Requirement) (n : Nat) (c : Cache) (route : Route) : Prop where
  short : route.length ≤ n
  again : ∃ r, Route.follow next rs route = some r ∧ (r.id ∈ path ∨
    ∃ earlier q, earlier <+: route ∧ earlier ≠ route ∧ Route.follow next rs earlier = some q ∧
      q.id = r.id)
  first : ∀ earlier q, earlier <+: route → earlier ≠ route →
    Route.follow next rs earlier = some q →
      q.id ∉ path ∧ ¬ c.Covers next (n + 1 - earlier.length) q ∧ Route.Leading next rs earlier

section
variable {next : Requirement → List Requirement} {path : List ModuleId} {r : Requirement}
  {rs rest : List Requirement} {n i : Nat} {c c' : Cache} {route : Route}

theorem Exposes.ne_nil (exposes : Exposes next path rs n c route) : route ≠ [] := by
  rintro rfl
  obtain ⟨r, hr, -⟩ := exposes.again
  cases hr

theorem Exposes.given (exposes : Exposes next path rs n c route) : rs ≠ [] := by
  rintro rfl
  obtain ⟨r, hr, -⟩ := exposes.again
  cases route <;> cases hr

theorem Exposes.mem_path (exposes : Exposes next path (r :: rest) n c [0]) : r.id ∈ path := by
  obtain ⟨q, hq, onPath | ⟨earlier, p, prior, proper, hp, -⟩⟩ := exposes.again
  · cases hq
    exact onPath
  · obtain ⟨inner, rfl, within, apart⟩ := prior_cons prior proper hp
    exact absurd (List.prefix_nil.mp within) apart

theorem Exposes.reaches (exposes : Exposes next path rs n c route) :
    Reaches next path rs n c route := exposes.first

theorem Exposes.head (exposes : Exposes next path (r :: rest) n c (0 :: i :: route)) :
    ¬ c.Covers next n r ∧ next r ≠ [] := by
  obtain ⟨q, hq, -⟩ := exposes.again
  exact ⟨exposes.reaches.head.2, Route.mem_of_below hq⟩

theorem Exposes.below (exposes : Exposes next path (r :: rest) (n + 1) c (0 :: i :: route)) :
    Exposes next (path ++ [r.id]) (next r) n c (i :: route) := by
  obtain ⟨q, hq, again⟩ := exposes.again
  refine ⟨Nat.le_of_succ_le_succ exposes.short, ⟨q, hq, ?_⟩, exposes.reaches.below⟩
  obtain onPath | ⟨earlier, p, prior, proper, hp, same⟩ := again
  · exact .inl (List.mem_append_left _ onPath)
  · obtain ⟨inner, rfl, within, proper⟩ := prior_cons prior proper hp
    cases inner with
    | nil =>
        cases hp
        exact .inl (by simp [same])
    | cons j inner => exact .inr ⟨j :: inner, p, within, proper, hp, same⟩

theorem Exposes.above (exposes : Exposes next (path ++ [r.id]) (next r) n c route)
    (new : r.id ∉ path) (few : ¬ c.Covers next (n + 1 : Nat) r) :
    Exposes next path (r :: rest) (n + 1) c (0 :: route) := by
  obtain ⟨q, hq, again⟩ := exposes.again
  cases route with
  | nil => exact absurd rfl exposes.ne_nil
  | cons i route =>
      refine ⟨Nat.succ_le_succ exposes.short, ⟨q, hq, ?_⟩, exposes.reaches.above new few⟩
      obtain onPath | ⟨earlier, p, prior, proper, hp, same⟩ := again
      · refine (List.mem_append.mp onPath).imp_right fun here => ?_
        exact ⟨[0], r, by simp, by simp, rfl, (List.mem_singleton.mp here).symm⟩
      · obtain ⟨inner, rfl, -⟩ := prior_cons prior proper hp
        obtain ⟨prior, proper⟩ := cons_prior (i := 0) prior proper
        exact .inr ⟨_, p, prior, proper, hp, same⟩

/-- A route that starts further on is still open when the requirement at the head is done with. -/
theorem Exposes.after (exposes : Exposes next path (r :: rest) n c ((i + 1) :: route))
    (traced : ∀ id e, c'.find? id = some e → Traced next [r] n c id e) :
    Exposes next path rest n c' (i :: route) := by
  obtain ⟨q, hq, again⟩ := exposes.again
  refine ⟨exposes.short, ⟨q, hq, ?_⟩, exposes.reaches.after exposes.short hq traced⟩
  refine again.imp_right fun ⟨earlier, p, prior, proper, hp, same⟩ => ?_
  obtain ⟨inner, rfl, within, apart⟩ := prior_cons prior proper hp
  obtain ⟨prior, proper⟩ := cons_prior (i := i) within apart
  exact ⟨_, p, prior, proper, hp, same⟩

/-- What is exposed further on was open before the requirement at the head, if all routes from there
were expanded as far as they are long. -/
theorem Exposes.before (exposes : Exposes next path rest n c' (i :: route)) (le : c.LE c')
    (byId : ∀ q p, q.id = p.id → next q = next p)
    (covers : ∀ other q, Route.follow next [r] other = some q →
      c'.Covers next (n + 1 - other.length) q) :
    Exposes next path (r :: rest) n c ((i + 1) :: route) := by
  obtain ⟨q, hq, again⟩ := exposes.again
  refine ⟨exposes.short, ⟨q, hq, ?_⟩, exposes.reaches.before le byId covers⟩
  refine again.imp_right fun ⟨earlier, p, prior, proper, hp, same⟩ => ?_
  obtain ⟨inner, rfl, within, apart⟩ := prior_cons prior proper hp
  obtain ⟨prior, proper⟩ := cons_prior (i := i + 1) within apart
  exact ⟨_, p, prior, proper, hp, same⟩

end

section
variable {b : Builder σ} {answer : ModuleId → Except Failure Content} {parent : PlacedManifest}
  {r : Requirement} {path : List ModuleId} {s t u : BuildState σ} {n : Nat}
  {rs rest : List Requirement} {o : Except Failure (List Node)} {route : Route}
  (answers : b.Answers fun r => answer r.id) (strict : b.lenient = false)
include answers strict

/-- A strict build is done at once with a module that is expanded far enough, and with one that
requires nothing. -/
theorem Opens.strict_done {node : Node} (opens : Opens b parent r path s n (.done (.ok node)) t)
    (positive : 0 < n) (sourced : s.cache.Sourced (b.known answer)) :
    r.id ∉ path ∧ (s.cache.Covers (b.needs answer) n r ∨ b.needs answer r = []) := by
  cases opens with
  | bare => exact absurd positive (Nat.lt_irrefl 0)
  | cycle _ mode => exact nomatch strict.symm.trans mode
  | shared new hit enough =>
      exact ⟨new, enough.symm.imp (fun far => .inr ⟨_, hit, .inl far⟩)
        (sourced.needs_of_unread hit)⟩
  | search new _ settled => exact ⟨new, .inr (settled.needs_of_done answers)⟩

/-- A strict run that succeeds was exposed to no cycle. -/
theorem Expands.not_exposes (run : Expands b n path parent rs s o t) {ns : List Node}
    (ok : o = .ok ns) (sourced : s.cache.Sourced (b.known answer)) :
    ¬ Exposes (b.needs answer) path rs n s.cache route := by
  induction run generalizing ns route with
  | nil => exact fun exposes => exposes.given rfl
  | halt | sink => cases ok
  | @pass n path parent r rest s t u node o opens after ih =>
      intro exposes
      cases o with
      | error f => cases ok
      | ok ms =>
          -- A route from the head needs more of it than a run that is done with it at once has done.
          match route with
          | [] => exact exposes.ne_nil rfl
          | [0] =>
              obtain ⟨new, -⟩ := opens.strict_done answers strict exposes.short sourced
              exact new exposes.mem_path
          | 0 :: i :: onward =>
              have positive : 0 < n := Nat.lt_of_lt_of_le (Nat.zero_lt_succ _) exposes.short
              obtain ⟨-, far | nothing⟩ := opens.strict_done answers strict positive sourced
              · exact exposes.head.1 far
              · exact exposes.head.2 nothing
          | (i + 1) :: onward =>
              have head : Expands b n path parent [r] s (.ok [node]) t := .pass opens .nil
              refine ih rfl (opens.sourced answers sourced) (exposes.after fun id e he => ?_)
              exact head.traced answers sourced he
  | @rise n path parent r rest s t u v d ms o opens below after ihBelow ihAfter =>
      intro exposes
      cases o with
      | error f => cases ok
      | ok others =>
          have within := opens.sourced answers sourced
          match route with
          | [] => exact exposes.ne_nil rfl
          | [0] => exact opens.of_expand.2.1 exposes.mem_path
          | 0 :: i :: onward =>
              have inner := exposes.below
              rw [opens.needs_of_expand answers sourced, ← opens.of_expand.1] at inner
              exact ihBelow rfl within inner
          | (i + 1) :: onward =>
              have head : Expands b (n + 1) path parent [r] s (.ok [d.node r ms])
                  (d.finish (n + 1) r ms u) := .rise opens below .nil
              refine ihAfter rfl (head.sourced answers sourced) (exposes.after fun id e he => ?_)
              exact head.traced answers sourced he

omit answers strict in
theorem licenseFor_not_cyclic (plain : b.Plain answer) {data : Option Bytes} {f : Failure}
    (run : (licenseFor b r data).run.run s = (.error f, t)) : ¬ f.Cyclic := by
  cases licenses_of_run run with
  | refused given label =>
      exact fun cyclic => plain.classifier _ _ _ label (Failure.cyclic_forModule cyclic)
  | missing blank mode =>
      rintro ⟨p, ids, same, kind⟩
      cases same
      cases kind

omit strict in
theorem Opens.mem_of_cyclic (plain : b.Plain answer) {f : Failure}
    (opens : Opens b parent r path s n (.done (.error f)) t) (cyclic : f.Cyclic) :
    r.id ∈ path ∧ 0 < n := by
  cases opens with
  | cycleError again _ => exact ⟨again, Nat.zero_lt_succ _⟩
  | search new miss settled =>
      rw [b.verdict_eq answers] at settled
      generalize made : Verdict.of b.lenient r.version (answer r.id) = verdict at settled
      cases settled with
      | failed =>
          obtain ⟨g, failed, rfl⟩ := Verdict.of_fail made
          exact absurd (Failure.cyclic_forModule cyclic) (plain.resolver _ _ failed)
      | unlicensed run => exact absurd cyclic (licenseFor_not_cyclic plain run)

theorem Expands.exposes_before {depth : Nat} {ns : List Node}
    (head : Expands b n path parent [r] s (.ok ns) t) (level : n + path.length = depth)
    (sourced : s.cache.Sourced (b.known answer)) (closed : Closed b answer path depth s.cache)
    (exposes : Exposes (b.needs answer) path rest n t.cache route) :
    ∃ route, Exposes (b.needs answer) path (r :: rest) n s.cache route := by
  obtain ⟨closed, due⟩ := head.due answers rfl level sourced closed
  match route with
  | [] => exact absurd rfl exposes.ne_nil
  | i :: onward =>
      refine ⟨(i + 1) :: onward, exposes.before head.cache_le (fun _ _ => Builder.needs_congr) ?_⟩
      exact fun other q hq => closed.follow (fun due => due.covers_of_strict strict)
        (fun p hp => (due p hp).covers_of_strict strict) hq

/-- A strict run that meets a module again was exposed to a cycle. -/
theorem Meets.exposes {depth : Nat} {trail : Trail} {x : Encounter σ}
    (meets : Meets b n trail parent rs s x) (again : x.Again) (level : n + trail.ids.length = depth)
    (sourced : s.cache.Sourced (b.known answer)) (closed : Closed b answer trail.ids depth s.cache) :
    ∃ route, Exposes (b.needs answer) trail.ids rs n s.cache route := by
  induction meets with
  | here => exact ⟨[0], again.1, ⟨_, rfl, .inl again.2⟩, reaches_singleton⟩
  | @later n trail parent r rest s t node x visited meets ih =>
      have head := expands_visit b n trail.ids parent r s
      rw [visited] at head
      obtain ⟨closed', -⟩ := head.due answers rfl level sourced closed
      obtain ⟨route, exposes⟩ := ih again level (head.sourced answers sourced) closed'
      exact head.exposes_before answers strict level sourced closed exposes
  | @inside n trail parent r rest s t d x opens meets ih =>
      obtain ⟨cache, new, -⟩ := opens.of_expand
      rw [Trail.ids_concat] at ih
      obtain ⟨route, exposes⟩ := ih again (level_enter level)
        (opens.sourced answers sourced) (by rw [cache]; exact closed.mono fun _ _ => Due.enter)
      rw [cache, ← opens.needs_of_expand answers sourced] at exposes
      exact ⟨0 :: route, exposes.above new (opens.not_covers_of_expand exposes.given)⟩

/-- A strict run that fails with a cycle was exposed to one. -/
theorem Expands.exposes (plain : b.Plain answer) {depth : Nat} {f : Failure}
    (run : Expands b n path parent rs s o t) (failed : o = .error f) (cyclic : f.Cyclic)
    (level : n + path.length = depth) (sourced : s.cache.Sourced (b.known answer))
    (closed : Closed b answer path depth s.cache) :
    ∃ route, Exposes (b.needs answer) path rs n s.cache route := by
  obtain ⟨trail, rfl⟩ := Trail.exists_ids path parent
  obtain ⟨x, meets, stops⟩ := run.exists_meets_of_error failed rfl
  obtain ⟨again, positive⟩ := stops.mem_of_cyclic answers plain cyclic
  exact meets.exposes answers strict ⟨positive, again⟩ level sourced closed

omit strict in
/-- Where everything is found, a run fails with nothing but a cycle. -/
theorem Expands.cyclic (finds : b.Finds answer) {f : Failure}
    (run : Expands b n path parent rs s o t) (failed : o = .error f) : f.Cyclic := by
  induction run with
  | nil => cases failed
  | @halt n path parent r rest s t g opens =>
      cases failed
      cases opens with
      | cycleError => exact ⟨_, _, rfl, rfl⟩
      | search new miss settled =>
          obtain ⟨content, byte, bytes, found, license⟩ := finds.resolver r.id
          rw [b.verdict_eq answers, found, Verdict.of] at settled
          cases settled with
          | unlicensed run =>
              cases licenses_of_run run with
              | @refused byte bytes _ given label =>
                  obtain ⟨name, labelled⟩ := finds.classifier (byte :: bytes) _
                  exact nomatch labelled.symm.trans label
              | missing blank _ => exact absurd license (blank byte bytes)
  | @pass n path parent r rest s t u node o opens after ih =>
      cases o with
      | ok ms => cases failed
      | error g => exact ih failed
  | sink _ _ ih => exact ih failed
  | @rise n path parent r rest s t u v d ms o opens below after ihBelow ihAfter =>
      cases o with
      | ok others => cases failed
      | error g => exact ihAfter failed

end

/-- From a fresh start a run is exposed to what routes reveal within its levels. -/
theorem exposes_iff {next : Requirement → List Requirement} {rs : List Requirement} {n : Nat}
    {c : Cache} {route : Route} (empty : ∀ id, c.find? id = none) :
    Exposes next [] rs n c route ↔ route.length ≤ n ∧ Route.Reveals next rs route := by
  constructor
  · intro exposes
    obtain ⟨r, hr, again⟩ := exposes.again
    obtain ⟨earlier, q, prior, proper, hq, same⟩ := again.resolve_left List.not_mem_nil
    exact ⟨exposes.short, ⟨earlier, q, r, prior, proper, hq, hr, same⟩,
      (reaches_iff empty exposes.short).mp exposes.reaches⟩
  · rintro ⟨short, ⟨earlier, q, r, prior, proper, hq, hr, same⟩, leading⟩
    exact ⟨short, ⟨r, hr, .inr ⟨earlier, q, prior, proper, hq, same⟩⟩,
      (reaches_iff empty short).mpr leading⟩

end Build

namespace Builder

/-- A strict build from nothing meets the cycles that routes within the depth reveal: if there is
one, it returns no tree, and it reports no cycle unless there is one. Where everything is found, it
returns a tree if no route reveals a cycle, whether or not some route closes one. -/
theorem cycle_of_build {b : Builder σ} {answer : ModuleId → Except Failure Content}
    (answers : b.Answers fun r => answer r.id) (strict : b.lenient = false) (root : PlacedManifest)
    (depth : Nat) (world : σ) :
    ((∃ route, route.length ≤ depth ∧ Route.Reveals (b.needs answer) root.requirements route) →
      ∀ t, (b.build root depth (.fresh world)).1 ≠ .ok t) ∧
    (b.Plain answer → ∀ f, (b.build root depth (.fresh world)).1 = .error f → f.Cyclic →
      ∃ route, route.length ≤ depth ∧ Route.Reveals (b.needs answer) root.requirements route) ∧
    (b.Finds answer → ((∃ t, (b.build root depth (.fresh world)).1 = .ok t) ↔
      ¬ ∃ route, route.length ≤ depth ∧
        Route.Reveals (b.needs answer) root.requirements route)) := by
  obtain ⟨o, u, run, result⟩ := b.expands_build root depth (.fresh world)
  rw [result]
  generalize start : (BuildState.fresh world).told _ _ = s at run
  have empty (id) : s.cache.find? id = none := by rw [← start]; rfl
  have sourced : s.cache.Sourced (b.known answer) := fun id e h => by simp [empty] at h
  have missed : (∃ route, route.length ≤ depth ∧
      Route.Reveals (b.needs answer) root.requirements route) → ∀ ns, o ≠ .ok ns := by
    rintro ⟨route, revealed⟩ ns ok
    exact run.not_exposes answers strict ok sourced ((Build.exposes_iff empty).mpr revealed)
  have met : b.Plain answer → ∀ f, o = .error f → f.Cyclic → ∃ route, route.length ≤ depth ∧
      Route.Reveals (b.needs answer) root.requirements route := by
    intro plain f failed cyclic
    obtain ⟨route, exposes⟩ := run.exposes answers strict plain failed cyclic rfl sourced
      fun r e h => by simp [empty] at h
    exact ⟨route, (Build.exposes_iff empty).mp exposes⟩
  cases o with
  | ok ns =>
      have hidden := fun revealed => missed revealed ns rfl
      exact ⟨fun revealed => absurd revealed hidden, nofun,
        fun _ => ⟨fun _ => hidden, fun _ => ⟨_, rfl⟩⟩⟩
  | error f =>
      refine ⟨nofun, ?_, fun finds => ⟨nofun, fun hidden => ?_⟩⟩
      · rintro plain f ⟨⟩
        exact met plain f rfl
      · exact absurd (met finds.plain f rfl (run.cyclic answers finds rfl)) hidden

def looped : Chart := fun id =>
  if id = "a@v1" then ["x"] else if id = "x@v1" then ["y"] else if id = "y@v1" then ["x"] else []

/-- What a strict build of the loop comes to, three levels below a root that requires these paths.
-/
def loopedBuild (paths : List String) : Except Failure Tree × BuildState Unit :=
  (looped.builder false).build (Chart.manifest "m" paths) 3 (.fresh ())

/-- Met through its second module, the loop is reported. -/
theorem cycle_of_build_looped :
    (∃ route, route.length ≤ 3 ∧ Route.Reveals ((looped.builder false).needs looped.content)
      (Chart.manifest "m" ["y", "a"]).requirements route) ∧
    ¬ ∃ t, (loopedBuild ["y", "a"]).1 = .ok t := by
  have revealed : ∃ route, route.length ≤ 3 ∧
      Route.Reveals ((looped.builder false).needs looped.content)
        (Chart.manifest "m" ["y", "a"]).requirements route := by
    refine ⟨[0, 0, 0], by decide, ⟨[0], Chart.requirement "y", Chart.requirement "y", ?_⟩, ?_⟩
    · exact ⟨by decide, by decide, rfl, rfl, rfl⟩
    · intro earlier prior proper
      obtain rfl | ⟨second, rfl, prior₂⟩ := List.prefix_cons_iff.mp prior
      · exact Route.leading_nil
      · obtain rfl | ⟨third, rfl, prior₃⟩ := List.prefix_cons_iff.mp prior₂
        · exact Route.leading_head
        · obtain rfl | ⟨rest, rfl, prior₄⟩ := List.prefix_cons_iff.mp prior₃
          · refine Route.leading_head.above fun q hq => ?_
            cases hq
            decide
          · exact absurd (by rw [List.prefix_nil.mp prior₄]) proper
  refine ⟨revealed, fun ⟨t, built⟩ => ?_⟩
  obtain ⟨reported, -⟩ := cycle_of_build (looped.builder_answers false) rfl
    (Chart.manifest "m" ["y", "a"]) 3 ()
  exact reported revealed t built

/-- When the loop was met through its first module before, the second one is taken as it was kept,
and the loop is not reported, though a route closes it within the depth. -/
theorem looped_hidden :
    (∃ route, route.length ≤ 3 ∧ Route.Closes ((looped.builder false).needs looped.content)
      (Chart.manifest "m" ["a", "y"]).requirements route) ∧
    ∃ t, (loopedBuild ["a", "y"]).1 = .ok t := by
  refine ⟨⟨[1, 0, 0], by decide, [1], Chart.requirement "y", Chart.requirement "y", ?_⟩, ?_⟩
  · exact ⟨by decide, by decide, rfl, rfl, rfl⟩
  · have succeeds : (loopedBuild ["a", "y"]).1.isOk := by decide +kernel
    cases built : (loopedBuild ["a", "y"]).1 with
    | ok t => exact ⟨t, rfl⟩
    | error f =>
        rw [built] at succeeds
        cases succeeds

end Builder

end Attribution

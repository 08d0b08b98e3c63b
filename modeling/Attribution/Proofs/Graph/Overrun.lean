import Attribution.Proofs.Graph.Cycle
import Attribution.Proofs.Graph.Expansion

/-!
When a strict run goes beyond its levels. A module that is met with fewer levels left than it is kept
with brings more than there is room for, if it goes on that far. Whether the run comes to such a
module can be told from the routes: it must follow one to it, and a shorter one must lead there
before.
-/

namespace Attribution

variable {σ : Type}

/-- A shorter route that is taken before leads to the same module, but not on the way. -/
def Route.Nearer (next : Requirement → List Requirement) (rs : List Requirement) (route : Route)
    (q : Requirement) : Prop :=
  ∃ other p, Before other route ∧ ¬ other <+: route ∧ other.length < route.length ∧
    follow next rs other = some p ∧ p.id = q.id

namespace Route

variable {next : Requirement → List Requirement} {r q : Requirement} {rs rest : List Requirement}
  {i : Nat} {route : Route}

theorem not_nearer_head : ¬ Nearer next (r :: rest) [0] q := by
  rintro ⟨other, p, before, -, -, hp, -⟩
  cases other with
  | nil => cases hp
  | cons j other => exact not_before_head before

theorem nearer_below :
    Nearer next (r :: rest) (0 :: i :: route) q ↔ Nearer next (next r) (i :: route) q := by
  constructor
  · rintro ⟨other, p, before, apart, shorter, hp, same⟩
    cases before with
    | nil => cases hp
    | rel lower => exact absurd lower (Nat.not_lt_zero _)
    | @cons _ other _ before =>
        cases other with
        | nil => exact absurd (by simp) apart
        | cons j other =>
            refine ⟨j :: other, p, before, ?_, Nat.lt_of_succ_lt_succ shorter, hp, same⟩
            exact fun prior => apart (List.prefix_cons_iff.mpr (.inr ⟨_, rfl, prior⟩))
  · rintro ⟨other, p, before, apart, shorter, hp, same⟩
    cases other with
    | nil => cases hp
    | cons j other =>
        refine ⟨0 :: j :: other, p, .cons before, ?_, Nat.succ_lt_succ shorter, hp, same⟩
        intro prior
        exact apart ((List.cons_prefix_cons.mp prior).2)

/-- What is nearer by a route past the head is nearer from there, or a route from the head leads to
it. -/
theorem nearer_after :
    Nearer next (r :: rest) ((i + 1) :: route) q ↔
      Nearer next rest (i :: route) q ∨
        ∃ other p, other.length ≤ route.length ∧ follow next [r] other = some p ∧ p.id = q.id := by
  constructor
  · rintro ⟨other, p, before, apart, shorter, hp, same⟩
    match other with
    | [] => cases hp
    | 0 :: other => exact .inr ⟨0 :: other, p, Nat.le_of_lt_succ shorter, hp, same⟩
    | (j + 1) :: other =>
        refine .inl ⟨j :: other, p, before_after.mp before, ?_, shorter, hp, same⟩
        exact fun prior => apart (prefix_after.mpr prior)
  · rintro (⟨other, p, before, apart, shorter, hp, same⟩ | ⟨other, p, shorter, hp, same⟩)
    · match other with
      | [] => cases hp
      | j :: other =>
          refine ⟨(j + 1) :: other, p, before_after.mpr before, ?_, shorter, hp, same⟩
          exact fun prior => apart (prefix_after.mp prior)
    · match other with
      | [] => cases hp
      | 0 :: other =>
          refine ⟨0 :: other, p, .rel (Nat.zero_lt_succ i), ?_, Nat.lt_succ_of_le shorter, hp, same⟩
          intro prior
          cases (List.cons_prefix_cons.mp prior).1

end Route

namespace Build

/-- A route that a run follows to a module from where it goes on for longer than there are levels,
and that is kept with more levels or met nearer before. -/
structure Overruns (next : Requirement → List Requirement) (path : List ModuleId)
    (rs : List Requirement) (n : Nat) (c : Cache) (route onward : Route) : Prop where
  long : route.length + onward.length = n + 1
  further : onward ≠ []
  reaches : Reaches next path rs n c route
  meets : ∃ q, Route.follow next rs route = some q ∧ Route.below next q onward ≠ none ∧
    (c.Covers next (n + 2 - route.length) q ∨ Route.Nearer next rs route q)

section
variable {next : Requirement → List Requirement} {path : List ModuleId} {r q : Requirement}
  {rs rest : List Requirement} {n i : Nat} {c c' : Cache} {route onward : Route}

theorem Overruns.short (overruns : Overruns next path rs n c route onward) :
    route.length ≤ n := by
  have some := List.length_pos_iff.mpr overruns.further
  have long := overruns.long
  omega

theorem Overruns.given (overruns : Overruns next path rs n c route onward) :
    route ≠ [] ∧ rs ≠ [] := by
  obtain ⟨q, hq, -⟩ := overruns.meets
  constructor
  · rintro rfl
    cases hq
  · rintro rfl
    cases route <;> cases hq

theorem next_ne_nil_of_below (further : onward ≠ []) (h : Route.below next q onward ≠ none) :
    next q ≠ [] := by
  cases onward with
  | nil => exact absurd rfl further
  | cons i onward =>
      obtain ⟨p, hp⟩ := Option.ne_none_iff_exists'.mp h
      exact Route.mem_of_below hp

theorem Overruns.head (overruns : Overruns next path (r :: rest) n c [0] onward) :
    onward.length = n ∧ Route.below next r onward ≠ none ∧
      ∃ e, c.find? r.id = some e ∧ (n + 1 : Nat) ≤ e.levels := by
  have long := overruns.long
  obtain ⟨q, hq, goes, covers⟩ := overruns.meets
  cases hq
  obtain ⟨e, kept, far⟩ := (covers.resolve_right Route.not_nearer_head).kept (by simp; omega)
  have far := far.resolve_right (next_ne_nil_of_below overruns.further goes)
  refine ⟨by simp at long; omega, goes, e, kept, ?_⟩
  simp only [List.length_singleton] at far
  omega

theorem Overruns.below
    (overruns : Overruns next path (r :: rest) (n + 1) c (0 :: i :: route) onward) :
    Overruns next (path ++ [r.id]) (next r) n c (i :: route) onward := by
  have long := overruns.long
  obtain ⟨q, hq, goes, covers⟩ := overruns.meets
  refine ⟨?_, overruns.further, overruns.reaches.below, q, hq, goes, ?_⟩
  · simp only [List.length_cons] at long ⊢
    omega
  · refine covers.imp (fun covers => covers.anti ?_) Route.nearer_below.mp
    simp only [List.length_cons]
    omega

theorem Overruns.above (overruns : Overruns next (path ++ [r.id]) (next r) n c route onward)
    (new : r.id ∉ path) (few : ¬ c.Covers next (n + 1 : Nat) r) :
    Overruns next path (r :: rest) (n + 1) c (0 :: route) onward := by
  cases route with
  | nil => exact absurd rfl overruns.given.1
  | cons i route =>
      have long := overruns.long
      obtain ⟨q, hq, goes, covers⟩ := overruns.meets
      refine ⟨?_, overruns.further, overruns.reaches.above new few, q, hq, goes, ?_⟩
      · simp only [List.length_cons] at long ⊢
        omega
      · refine covers.imp (fun covers => covers.anti ?_) Route.nearer_below.mpr
        simp only [List.length_cons]
        omega

variable (traced : ∀ id e, c'.find? id = some e → Traced next [r] n c id e) (le : c.LE c')
  (byId : ∀ q p, q.id = p.id → next q = next p)
  (covered : ∀ other q, Route.follow next [r] other = some q →
    c'.Covers next (n + 1 - other.length) q)
include traced le byId covered

theorem Overruns.after (overruns : Overruns next path (r :: rest) n c ((i + 1) :: route) onward) :
    Overruns next path rest n c' (i :: route) onward := by
  obtain ⟨q, hq, goes, covers⟩ := overruns.meets
  refine ⟨overruns.long, overruns.further, overruns.reaches.after overruns.short hq traced, q, hq,
    goes, ?_⟩
  cases covers with
  | inl covers => exact .inl (covers.mono le)
  | inr nearer =>
      obtain nearer | ⟨other, p, shorter, hp, same⟩ := Route.nearer_after.mp nearer
      · exact .inr nearer
      · -- What lies below the head was expanded as far as its route is long.
        have there := (covered other p hp).anti
          (by simp only [List.length_cons]; omega :
            (n + 2 - (i :: route).length : Int) ≤ n + 1 - other.length)
        rw [Cache.Covers, same, byId p q same] at there
        exact .inl there

theorem Overruns.before (overruns : Overruns next path rest n c' (i :: route) onward) :
    Overruns next path (r :: rest) n c ((i + 1) :: route) onward := by
  obtain ⟨q, hq, goes, covers⟩ := overruns.meets
  have short := overruns.short
  refine ⟨overruns.long, overruns.further, overruns.reaches.before le byId covered, q, hq, goes, ?_⟩
  cases covers with
  | inr nearer => exact .inr (Route.nearer_after.mpr (.inl nearer))
  | inl covers =>
      obtain ⟨e, kept, far⟩ := covers.kept (by omega)
      have far := far.resolve_right (next_ne_nil_of_below overruns.further goes)
      simp only [List.length_cons] at far
      obtain ⟨old, hold, levels⟩ | ⟨other, x, hx, same, fits, levels⟩ := traced q.id e kept
      · refine .inl (.inr ⟨old, hold, .inl ?_⟩)
        simp only [List.length_cons]
        omega
      · exact .inr (Route.nearer_after.mpr (.inr ⟨other, x, by omega, hx, same⟩))

end

/-- What a strict run finds kept. -/
structure Steady (b : Builder σ) (answer : ModuleId → Except Failure Content)
    (path : List ModuleId) (depth : Nat) (c : Cache) : Prop where
  formed : c.Formed b.lenient
  sourced : c.Sourced (b.known answer)
  full : Full (b.needs answer) c
  closed : Closed b answer path depth c

/-- Every kept tree stays within the levels it is kept with. -/
def Snug (c : Cache) : Prop := ∀ id e, c.find? id = some e → e.node.Within e.levels.toNat

theorem Snug.store {c : Cache} {node : Node} {n : Nat} {manifest : Option PlacedManifest}
    (snug : Snug c) (within : node.Within n) : Snug (c.store ⟨node, n, manifest⟩) := by
  intro id e kept
  cases Cache.find?_of_store kept with
  | inl new =>
      obtain ⟨-, rfl⟩ := new
      exact within
  | inr old => exact snug id e old

section
variable {b : Builder σ} {answer : ModuleId → Except Failure Content} {parent : PlacedManifest}
  {r : Requirement} {path : List ModuleId} {s t u : BuildState σ} {n depth : Nat}
  {rs rest : List Requirement} {o : Except Failure (List Node)} {ns : List Node}
  {route onward : Route}

theorem Steady.enter {c : Cache} {id : ModuleId} (steady : Steady b answer path depth c) :
    Steady b answer (path ++ [id]) depth c :=
  ⟨steady.formed, steady.sourced, steady.full, steady.closed.mono fun _ _ => Due.enter⟩

variable (answers : b.Answers fun r => answer r.id) (strict : b.lenient = false)
include answers strict

theorem Expands.steady (run : Expands b n path parent rs s (.ok ns) t)
    (level : n + path.length = depth) (steady : Steady b answer path depth s.cache) :
    Steady b answer path depth t.cache := by
  obtain ⟨formed, sourced, full⟩ := ((Build.full answers strict).run run
    ⟨steady.formed, steady.sourced, steady.full⟩).1
  exact ⟨formed, sourced, full, (run.due answers rfl level steady.sourced steady.closed).1⟩

theorem Expands.covered (run : Expands b n path parent rs s (.ok ns) t)
    (level : n + path.length = depth) (steady : Steady b answer path depth s.cache)
    {q : Requirement} (hq : Route.follow (b.needs answer) rs route = some q) :
    t.cache.Covers (b.needs answer) (n + 1 - route.length) q := by
  obtain ⟨closed, due⟩ := run.due answers rfl level steady.sourced steady.closed
  exact closed.follow (fun due => due.covers_of_strict strict)
    (fun p hp => (due p hp).covers_of_strict strict) hq

omit answers in
/-- A kept module that is met again is expanded as far as it is kept. -/
theorem Opens.expanded_of_hit {node : Node} {e : Cache.Entry}
    (opens : Opens b parent r path s n (.done (.ok node)) t) (positive : 0 < n)
    (steady : Steady b answer path depth s.cache) (kept : s.cache.find? r.id = some e)
    (far : (n + 1 : Nat) ≤ e.levels) : node.Expanded (b.needs answer) (n + 1) := by
  cases opens with
  | bare => exact absurd positive (Nat.lt_irrefl 0)
  | cycle _ mode => exact nomatch strict.symm.trans mode
  | shared new hit enough =>
      obtain rfl := Option.some.inj (hit.symm.trans kept)
      exact steady.full.expanded (steady.formed _ (Cache.mem_of_find? hit)).1 hit far
  | search new miss settled => exact nomatch miss.symm.trans kept

theorem Expands.overruns_after {i : Nat} (head : Expands b n path parent [r] s (.ok ns) t)
    (level : n + path.length = depth) (steady : Steady b answer path depth s.cache)
    (overruns : Overruns (b.needs answer) path (r :: rest) n s.cache ((i + 1) :: route) onward) :
    Overruns (b.needs answer) path rest n t.cache (i :: route) onward :=
  overruns.after (fun _ _ he => head.traced answers steady.sourced he) head.cache_le
    (fun _ _ => Builder.needs_congr) fun _ _ hq => head.covered answers strict level steady hq

theorem Expands.overruns_before (head : Expands b n path parent [r] s (.ok ns) t)
    (level : n + path.length = depth) (steady : Steady b answer path depth s.cache)
    (overruns : Overruns (b.needs answer) path rest n t.cache route onward) :
    ∃ route, Overruns (b.needs answer) path (r :: rest) n s.cache route onward := by
  cases route with
  | nil => exact absurd rfl overruns.given.1
  | cons i route =>
      exact ⟨(i + 1) :: route, overruns.before
        (fun _ _ he => head.traced answers steady.sourced he) head.cache_le
        (fun _ _ => Builder.needs_congr) fun _ _ hq => head.covered answers strict level steady hq⟩

/-- A strict run that overruns its levels hands back a tree that goes beyond them. -/
theorem Expands.not_within (run : Expands b n path parent rs s o t) (ok : o = .ok ns)
    (level : n + path.length = depth) (steady : Steady b answer path depth s.cache)
    (overruns : Overruns (b.needs answer) path rs n s.cache route onward) :
    ∃ m ∈ ns, ¬ m.Within n := by
  induction run generalizing ns route with
  | nil => exact absurd rfl overruns.given.2
  | halt | sink => cases ok
  | @pass n path parent r rest s t u node o opens after ih =>
      have head : Expands b n path parent [r] s (.ok [node]) t := .pass opens .nil
      cases o with
      | error f => cases ok
      | ok ms =>
          cases ok
          match route with
          | [] => exact absurd rfl overruns.given.1
          | [0] =>
              obtain ⟨long, goes, e, kept, far⟩ := overruns.head
              have expanded := opens.expanded_of_hit strict overruns.short steady kept far
              refine ⟨node, List.mem_cons_self, fun within => ?_⟩
              rw [← opens.requirement_eq] at goes
              exact goes (expanded.within_iff.mp within onward long)
          | 0 :: i :: route =>
              -- A route that goes on below the head is not stopped at it.
              have positive : 0 < n := Nat.lt_of_lt_of_le (Nat.zero_lt_succ _) overruns.short
              obtain ⟨q, hq, -⟩ := overruns.meets
              obtain ⟨-, far | nothing⟩ := opens.strict_done answers strict positive steady.sourced
              · exact absurd far overruns.reaches.head.2
              · exact absurd nothing (Route.mem_of_below hq)
          | (i + 1) :: route =>
              have later := head.overruns_after answers strict level steady overruns
              obtain ⟨m, hm, beyond⟩ := ih rfl level (head.steady answers strict level steady) later
              exact ⟨m, List.mem_cons_of_mem _ hm, beyond⟩
  | @rise n path parent r rest s t u v d ms o opens below after ihBelow ihAfter =>
      have head : Expands b (n + 1) path parent [r] s (.ok [d.node r ms])
          (d.finish (n + 1) r ms u) := .rise opens below .nil
      cases o with
      | error f => cases ok
      | ok others =>
          cases ok
          match route with
          | [] => exact absurd rfl overruns.given.1
          | [0] =>
              obtain ⟨-, goes, e, kept, far⟩ := overruns.head
              have some := next_ne_nil_of_below overruns.further goes
              have covers : s.cache.Covers (b.needs answer) (n + 1 : Nat) r :=
                .inr ⟨e, kept, .inl (by omega)⟩
              exact absurd covers (opens.not_covers_of_expand some)
          | 0 :: i :: route =>
              have inner := overruns.below
              rw [opens.needs_of_expand answers steady.sourced, ← opens.of_expand.1] at inner
              have inside : Steady b answer (path ++ [r.id]) depth t.cache := by
                rw [opens.of_expand.1]
                exact steady.enter
              obtain ⟨m, hm, beyond⟩ := ihBelow rfl (level_enter level) inside inner
              exact ⟨_, List.mem_cons_self, fun within => beyond (within m hm)⟩
          | (i + 1) :: route =>
              have later := head.overruns_after answers strict level steady overruns
              obtain ⟨m, hm, beyond⟩ := ihAfter rfl level
                (head.steady answers strict level steady) later
              exact ⟨m, List.mem_cons_of_mem _ hm, beyond⟩

omit answers in
/-- A requirement that is done with at once stays within its levels, unless it was expanded further
and goes on. -/
theorem Opens.within_or_overruns {node : Node}
    (opens : Opens b parent r path s n (.done (.ok node)) t)
    (steady : Steady b answer path depth s.cache) (snug : Snug s.cache) :
    (Snug t.cache ∧ node.Within n) ∨
      ∃ route onward, Overruns (b.needs answer) path (r :: rest) n s.cache route onward := by
  cases opens with
  | bare => exact .inl ⟨snug, rfl, rfl⟩
  | cycle _ mode => exact nomatch strict.symm.trans mode
  | @shared k e new hit enough =>
      have sound := (steady.formed _ (Cache.mem_of_find? hit)).1
      cases enough with
      | inl unread => exact .inl ⟨snug, Node.within_of_alone (sound.alone unread) k⟩
      | inr far =>
          by_cases same : e.levels.toNat = k + 1
          · have within := snug _ e hit
            rw [same] at within
            exact .inl ⟨snug, within⟩
          · have further : (k + 1 + 1 : Nat) ≤ e.levels := by omega
            have expanded := steady.full.expanded sound hit further
            by_cases beyond : ∃ onward : Route, onward.length = k + 1 ∧
                Route.below (b.needs answer) r onward ≠ none
            · obtain ⟨onward, long, goes⟩ := beyond
              refine .inr ⟨[0], onward, by simp; omega, ?_, reaches_singleton, r, rfl, goes, ?_⟩
              · rintro rfl
                cases long
              · exact .inl (.inr ⟨e, hit, .inl (by simp; omega)⟩)
            · refine .inl ⟨snug, expanded.within_iff.mpr fun onward long => ?_⟩
              exact Classical.byContradiction fun goes => beyond ⟨onward, long, goes⟩
  | search new miss settled =>
      obtain ⟨-, ⟨f, ok, -⟩ | ⟨l, resolution, ok, cache⟩⟩ := settled.of_done
      · cases ok
      · cases ok
        left
        rw [cache]
        exact ⟨snug.store (Node.within_of_alone rfl _), Node.within_of_alone rfl _⟩

/-- A strict run that overruns its levels nowhere stays within them. -/
theorem Expands.within_or_overruns (run : Expands b n path parent rs s o t) (ok : o = .ok ns)
    (level : n + path.length = depth) (steady : Steady b answer path depth s.cache)
    (snug : Snug s.cache) :
    (Snug t.cache ∧ ∀ m ∈ ns, m.Within n) ∨
      ∃ route onward, Overruns (b.needs answer) path rs n s.cache route onward := by
  induction run generalizing ns with
  | nil =>
      cases ok
      exact .inl ⟨snug, nofun⟩
  | halt | sink => cases ok
  | @pass n path parent r rest s t u node o opens after ih =>
      have head : Expands b n path parent [r] s (.ok [node]) t := .pass opens .nil
      cases o with
      | error f => cases ok
      | ok ms =>
          cases ok
          obtain ⟨snug, first⟩ | overruns := opens.within_or_overruns strict steady snug
          · obtain ⟨snug, others⟩ | ⟨route, onward, overruns⟩ :=
              ih rfl level (head.steady answers strict level steady) snug
            · exact .inl ⟨snug, List.forall_mem_cons.mpr ⟨first, others⟩⟩
            · obtain ⟨route, overruns⟩ := head.overruns_before answers strict level steady overruns
              exact .inr ⟨route, onward, overruns⟩
          · exact .inr overruns
  | @rise n path parent r rest s t u v d ms o opens below after ihBelow ihAfter =>
      have head : Expands b (n + 1) path parent [r] s (.ok [d.node r ms])
          (d.finish (n + 1) r ms u) := .rise opens below .nil
      cases o with
      | error f => cases ok
      | ok others =>
          cases ok
          obtain ⟨cache, new, -⟩ := opens.of_expand
          obtain ⟨snug, children⟩ | ⟨route, onward, overruns⟩ := ihBelow rfl
            (level_enter level) (by rw [cache]; exact steady.enter) (by rw [cache]; exact snug)
          · have finished : Snug (d.finish (n + 1) r ms u).cache :=
              Draft.finish_induction (snug.store children) snug
            obtain ⟨snug, rest⟩ | ⟨route, onward, overruns⟩ :=
              ihAfter rfl level (head.steady answers strict level steady) finished
            · exact .inl ⟨snug, List.forall_mem_cons.mpr ⟨children, rest⟩⟩
            · obtain ⟨route, overruns⟩ := head.overruns_before answers strict level steady overruns
              exact .inr ⟨route, onward, overruns⟩
          · rw [cache, ← opens.needs_of_expand answers steady.sourced] at overruns
            have few := opens.not_covers_of_expand overruns.given.2
            exact .inr ⟨0 :: route, onward, overruns.above new few⟩

end

end Build

/-- Some module goes on beyond the depth from where a route leads to it, and a shorter route led to
it before. The modules that the route passes on the way are met on it first. -/
def Route.Overreaches (next : Requirement → List Requirement) (rs : List Requirement)
    (depth : Nat) : Prop :=
  ∃ route onward q, onward ≠ [] ∧ route.length + onward.length = depth + 1 ∧
    follow next rs route = some q ∧ below next q onward ≠ none ∧ Nearer next rs route q ∧
    ∀ earlier, earlier <+: route → earlier ≠ route → Leading next rs earlier

theorem Build.overruns_iff {next : Requirement → List Requirement} {rs : List Requirement} {n : Nat}
    {c : Cache} (empty : ∀ id, c.find? id = none) :
    (∃ route onward, Overruns next [] rs n c route onward) ↔ Route.Overreaches next rs n := by
  constructor
  · rintro ⟨route, onward, overruns⟩
    obtain ⟨q, hq, goes, nearer⟩ := overruns.meets
    refine ⟨route, onward, q, overruns.further, overruns.long, hq, goes, ?_,
      (reaches_iff empty overruns.short).mp overruns.reaches⟩
    have short := overruns.short
    refine nearer.resolve_left fun covers => ?_
    obtain ⟨e, kept, -⟩ := covers.kept (by omega)
    exact nomatch (empty _).symm.trans kept
  · rintro ⟨route, onward, q, further, long, hq, goes, nearer, leading⟩
    have some := List.length_pos_iff.mpr further
    have short : route.length ≤ n := by omega
    exact ⟨route, onward, long, further, (reaches_iff empty short).mpr leading, q, hq, goes,
      .inr nearer⟩

end Attribution

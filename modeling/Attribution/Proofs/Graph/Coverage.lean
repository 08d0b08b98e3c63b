import Attribution.Proofs.Graph.Growth
import Attribution.Proofs.Graph.Route

/-!
How far a run expands what it keeps, when the outcome of a search for content depends on the module
alone. Nothing is kept but what routes lead to, with the levels that their lengths leave. And what a
successful run was given is expanded so far, with all that is required below it: only modules on the
path may still be due, and they are finished when the run comes back to them.
-/

namespace Attribution

variable {σ : Type}

namespace Builder

variable (b : Builder σ) (answer : ModuleId → Except Failure Content)

def known (id : ModuleId) : Option PlacedManifest := Content.known b.lenient (answer id)

def needs (r : Requirement) : List Requirement := Content.requirements b.lenient (answer r.id)

variable {b answer}

theorem needs_congr {q r : Requirement} (same : q.id = r.id) :
    b.needs answer q = b.needs answer r := by
  rw [needs, same, needs]

theorem needs_of_known {r : Requirement} {m : PlacedManifest} (h : b.known answer r.id = some m) :
    b.needs answer r = m.requirements := Content.requirements_of_known h

theorem needs_of_unknown {r : Requirement} (h : b.known answer r.id = none) :
    b.needs answer r = [] := Content.requirements_of_unknown h

theorem verdict_eq (answers : b.Answers fun r => answer r.id) (parent : PlacedManifest)
    (r : Requirement) (scene : Scene σ) :
    b.verdict parent r scene = .of b.lenient r.version (answer r.id) := by
  rw [verdict, answers parent r scene]

theorem verdict_manifest? (answers : b.Answers fun r => answer r.id) (parent : PlacedManifest)
    (r : Requirement) (scene : Scene σ) :
    (b.verdict parent r scene).manifest? = b.known answer r.id := by
  rw [b.verdict_eq answers, Verdict.manifest?_of, known]

end Builder

namespace Cache

/-- Every module is kept with the manifest that is known of it. -/
def Sourced (known : ModuleId → Option PlacedManifest) (c : Cache) : Prop :=
  ∀ id e, c.find? id = some e → e.manifest = known id

theorem Sourced.store {known : ModuleId → Option PlacedManifest} {c : Cache} {e : Entry}
    (sourced : c.Sourced known) (same : e.manifest = known e.node.id) :
    (c.store e).Sourced known := by
  intro id f hf
  cases find?_of_store hf with
  | inl new => rw [new.1, new.2, same]
  | inr old => exact sourced id f old

theorem Sourced.needs_of_unread {b : Builder σ} {answer : ModuleId → Except Failure Content}
    {c : Cache} {r : Requirement} {e : Entry} (sourced : c.Sourced (b.known answer))
    (hit : c.find? r.id = some e) (unread : e.manifest = none) : b.needs answer r = [] :=
  Builder.needs_of_unknown (by rw [← sourced _ _ hit, unread])

/-- A module is expanded to so many levels, or there is nothing to expand. -/
def Covers (next : Requirement → List Requirement) (c : Cache) (levels : Int) (r : Requirement) :
    Prop :=
  levels ≤ 0 ∨ ∃ e, c.find? r.id = some e ∧ (levels ≤ e.levels ∨ next r = [])

section
variable {next : Requirement → List Requirement} {c c' : Cache} {levels less : Int}
  {r : Requirement}

theorem Covers.mono (covers : c.Covers next levels r) (le : c.LE c') : c'.Covers next levels r := by
  refine covers.imp_right fun ⟨e, he, far⟩ => ?_
  obtain ⟨e', he', grown⟩ := le r.id e he
  exact ⟨e', he', far.imp_left fun far => Int.le_trans far grown.levels⟩

theorem Covers.anti (covers : c.Covers next levels r) (fewer : less ≤ levels) :
    c.Covers next less r :=
  covers.imp (Int.le_trans fewer) fun ⟨e, he, far⟩ => ⟨e, he, far.imp_left (Int.le_trans fewer)⟩

theorem Covers.store {e : Entry} (same : e.node.id = r.id) : (c.store e).Covers next e.levels r :=
  .inr ⟨e, by rw [find?_store, if_pos same.symm], .inl (Int.le_refl _)⟩

theorem Covers.kept (covers : c.Covers next levels r) (some : 0 < levels) :
    ∃ e, c.find? r.id = .some e ∧ (levels ≤ e.levels ∨ next r = []) :=
  covers.resolve_left (Int.not_le.mpr some)

end

end Cache

namespace Build

variable {b : Builder σ} {answer : ModuleId → Except Failure Content} {parent : PlacedManifest}
  {r : Requirement} {path : List ModuleId} {s t u : BuildState σ} {n : Nat} {rs : List Requirement}
  {o : Except Failure (List Node)}

theorem Settles.manifest?_of_done {levels : Nat} {verdict : Verdict} {node : Node}
    (settled : Settles b r levels s verdict (.done (.ok node)) t) : verdict.manifest? = none := by
  cases settled with
  | skipped => rfl
  | leaf _ alone => exact alone

theorem Settles.manifest?_of_expand {levels : Nat} {verdict : Verdict} {d : Draft}
    (settled : Settles b r levels s verdict (.expand d) t) :
    verdict.manifest? = some d.manifest := by
  cases settled with
  | found _ known => exact known

section
variable (answers : b.Answers fun r => answer r.id)
include answers

theorem Opens.sourced {opening : Opening} (opens : Opens b parent r path s n opening t)
    (sourced : s.cache.Sourced (b.known answer)) : t.cache.Sourced (b.known answer) := by
  cases opens with
  | bare | cycle | cycleError | shared | deepen => exact sourced
  | @search n opening t new miss settled =>
      match opening with
      | .expand d =>
          rw [settled.of_expand.2.1]
          exact sourced
      | .done o =>
          obtain ⟨-, ⟨f, -, cache⟩ | ⟨l, resolution, rfl, cache⟩⟩ := settled.of_done <;> rw [cache]
          · exact sourced
          · exact sourced.store (by
              rw [← settled.manifest?_of_done, b.verdict_manifest? answers]
              rfl)

theorem Settles.needs_of_done {levels : Nat} {scene : Scene σ} {node : Node}
    (settled : Settles b r levels s (b.verdict parent r scene) (.done (.ok node)) t) :
    b.needs answer r = [] :=
  Builder.needs_of_unknown (by
    rw [← b.verdict_manifest? answers parent r scene, settled.manifest?_of_done])

theorem Opens.known_of_expand {d : Draft} (opens : Opens b parent r path s n (.expand d) t)
    (sourced : s.cache.Sourced (b.known answer)) : b.known answer r.id = some d.manifest := by
  cases opens with
  | deepen _ hit known _ => rw [← sourced _ _ hit, known]
  | search _ _ settled => rw [← b.verdict_manifest? answers, settled.manifest?_of_expand]

theorem Opens.sourced_finish {d : Draft} (opens : Opens b parent r path s n (.expand d) t)
    (sourced : s.cache.Sourced (b.known answer)) (below : u.cache.Sourced (b.known answer))
    (ns : List Node) : (d.finish n r ns u).cache.Sourced (b.known answer) := by
  exact Draft.finish_induction (below.store (opens.known_of_expand answers sourced).symm) below

theorem Expands.sourced (run : Expands b n path parent rs s o t)
    (sourced : s.cache.Sourced (b.known answer)) : t.cache.Sourced (b.known answer) := by
  induction run with
  | nil => exact sourced
  | halt opens => exact opens.sourced answers sourced
  | pass opens after ih => exact ih (opens.sourced answers sourced)
  | sink opens below ih => exact ih (opens.sourced answers sourced)
  | rise opens below after ihBelow ihAfter =>
      exact ihAfter (opens.sourced_finish answers sourced
        (ihBelow (opens.sourced answers sourced)) _)

theorem Opens.needs_of_expand {d : Draft} (opens : Opens b parent r path s n (.expand d) t)
    (sourced : s.cache.Sourced (b.known answer)) : b.needs answer r = d.manifest.requirements :=
  Builder.needs_of_known (opens.known_of_expand answers sourced)

end

/-- A module that is about to be expanded is not expanded so far yet. -/
theorem Opens.not_covers_of_expand {d : Draft} (opens : Opens b parent r path s n (.expand d) t)
    {next : Requirement → List Requirement} (some : next r ≠ []) : ¬ s.cache.Covers next n r := by
  intro covers
  have positive : (0 : Int) < n := by
    cases opens <;> omega
  obtain ⟨e, kept, far⟩ := covers.kept positive
  have far := far.resolve_right some
  obtain ⟨-, -, ⟨miss, -⟩ | ⟨old, hit, -, few, -⟩⟩ := opens.of_expand
  · exact nomatch miss.symm.trans kept
  · obtain rfl := Option.some.inj (hit.symm.trans kept)
    exact Int.not_le.mpr few far

theorem Opens.find?_done {o : Except Failure Node} (opens : Opens b parent r path s n (.done o) t)
    {id : ModuleId} {e : Cache.Entry} (h : t.cache.find? id = some e) :
    s.cache.find? id = some e ∨ id = r.id ∧ 1 ≤ n ∧ e.levels = n := by
  cases opens with
  | bare | cycle | cycleError | shared => exact .inl h
  | search new miss settled =>
      obtain ⟨-, ⟨f, -, cache⟩ | ⟨l, resolution, -, cache⟩⟩ := settled.of_done <;> rw [cache] at h
      · exact .inl h
      · obtain ⟨same, rfl⟩ | old := Cache.find?_of_store h
        · exact .inr ⟨same, Nat.le_add_left 1 _, rfl⟩
        · exact .inl old

theorem find?_finish_cases {d : Draft} {ns : List Node} {id : ModuleId} {e : Cache.Entry}
    (h : (d.finish n r ns u).cache.find? id = some e) :
    u.cache.find? id = some e ∨ id = r.id ∧ e.levels = n := by
  obtain cache | ⟨cache, -, -⟩ := d.finish_cache n r ns u <;> rw [cache] at h
  · obtain ⟨same, rfl⟩ | old := Cache.find?_of_store h
    · exact .inr ⟨same, rfl⟩
    · exact .inl old
  · exact .inl h

/-- Where a kept module came from: it was kept before, to the same levels, or a route leads to it
that leaves so many levels. -/
def Traced (next : Requirement → List Requirement) (rs : List Requirement) (n : Nat)
    (before : Cache) (id : ModuleId) (e : Cache.Entry) : Prop :=
  (∃ old, before.find? id = some old ∧ old.levels = e.levels) ∨
    ∃ route q, Route.follow next rs route = some q ∧ q.id = id ∧ route.length ≤ n ∧
      e.levels + route.length = n + 1

section
variable {next : Requirement → List Requirement} {before : Cache} {id : ModuleId} {e : Cache.Entry}

theorem Traced.here (positive : 1 ≤ n) (levels : e.levels = n) :
    Traced next (r :: rs) n before r.id e :=
  .inr ⟨[0], r, rfl, rfl, positive, by simp [levels]⟩

theorem Traced.below (traced : Traced next (next r) n before id e) :
    Traced next (r :: rs) (n + 1) before id e := by
  refine traced.imp_right fun ⟨route, q, hq, same, short, levels⟩ => ?_
  refine ⟨0 :: route, q, ?_, same, by simpa using short, ?_⟩
  · cases route with
    | nil => cases hq
    | cons i route => exact hq
  · rw [List.length_cons]
    omega

theorem Traced.after (traced : Traced next rs n before id e) :
    Traced next (r :: rs) n before id e := by
  refine traced.imp_right fun ⟨route, q, hq, same, short, levels⟩ => ?_
  cases route with
  | nil => cases hq
  | cons i route => exact ⟨(i + 1) :: route, q, hq, same, short, levels⟩

theorem Traced.trans {mid : Cache} (traced : Traced next rs n mid id e)
    (earlier : ∀ old, mid.find? id = some old → Traced next rs n before id old) :
    Traced next rs n before id e := by
  obtain ⟨old, hold, levels⟩ | route := traced
  · obtain ⟨older, holder, same⟩ | ⟨route, q, hq, same, short, sum⟩ := earlier old hold
    · exact .inl ⟨older, holder, same.trans levels⟩
    · exact .inr ⟨route, q, hq, same, short, levels ▸ sum⟩
  · exact .inr route

end

/-- Nothing is kept but what was kept before and what routes lead to, however a run ends. -/
theorem Expands.traced (answers : b.Answers fun r => answer r.id)
    (run : Expands b n path parent rs s o t) (sourced : s.cache.Sourced (b.known answer))
    {id : ModuleId} {e : Cache.Entry} (h : t.cache.find? id = some e) :
    Traced (b.needs answer) rs n s.cache id e := by
  induction run generalizing e with
  | nil => exact .inl ⟨e, h, rfl⟩
  | halt opens =>
      obtain old | ⟨rfl, positive, levels⟩ := opens.find?_done h
      · exact .inl ⟨e, old, rfl⟩
      · exact .here positive levels
  | pass opens after ih =>
      refine (ih (opens.sourced answers sourced) h).after.trans fun old hold => ?_
      obtain older | ⟨rfl, positive, levels⟩ := opens.find?_done hold
      · exact .inl ⟨old, older, rfl⟩
      · exact .here positive levels
  | sink opens below ih =>
      have inner := ih (opens.sourced answers sourced) h
      rw [← opens.needs_of_expand answers sourced, opens.of_expand.1] at inner
      exact inner.below
  | rise opens below after ihBelow ihAfter =>
      have within := opens.sourced answers sourced
      have inside := below.sourced answers within
      refine (ihAfter (opens.sourced_finish answers sourced inside _) h).after.trans
        fun old hold => ?_
      obtain older | ⟨rfl, levels⟩ := find?_finish_cases hold
      · have inner := ihBelow within older
        rw [← opens.needs_of_expand answers sourced, opens.of_expand.1] at inner
        exact inner.below
      · exact .here (Nat.le_add_left 1 _) levels

theorem Expands.length_eq (run : Expands b n path parent rs s o t) {ns : List Node}
    (ok : o = .ok ns) : ns.length = rs.length := by
  rw [← run.requirements_eq ok, List.length_map]

theorem level_enter {depth : Nat} {id : ModuleId} (level : n + 1 + path.length = depth) :
    n + (path ++ [id]).length = depth := by
  rw [List.length_append, List.length_singleton]
  omega

/-- A module is expanded to so many levels, or will be when a lenient run comes back to it: it is on
the path, with as many levels left there. -/
def Due (b : Builder σ) (answer : ModuleId → Except Failure Content) (path : List ModuleId)
    (depth : Nat) (c : Cache) (levels : Int) (r : Requirement) : Prop :=
  c.Covers (b.needs answer) levels r ∨
    b.lenient = true ∧ ∃ i : Nat, path[i]? = some r.id ∧ levels + i ≤ depth

/-- Whatever a kept module requires is expanded one level less than the module is. -/
def Closed (b : Builder σ) (answer : ModuleId → Except Failure Content) (path : List ModuleId)
    (depth : Nat) (c : Cache) : Prop :=
  ∀ r e, c.find? r.id = some e → ∀ q ∈ b.needs answer r, Due b answer path depth c (e.levels - 1) q

section
variable {depth : Nat} {c c' : Cache} {levels less : Int}

theorem Due.mono (due : Due b answer path depth c levels r) (le : c.LE c') :
    Due b answer path depth c' levels r := due.imp_left (·.mono le)

theorem Due.anti (due : Due b answer path depth c levels r) (fewer : less ≤ levels) :
    Due b answer path depth c less r :=
  due.imp (·.anti fewer) fun ⟨mode, i, hi, far⟩ => ⟨mode, i, hi, by omega⟩

theorem Due.enter {id : ModuleId} (due : Due b answer path depth c levels r) :
    Due b answer (path ++ [id]) depth c levels r := by
  refine due.imp_right fun ⟨mode, i, hi, far⟩ => ⟨mode, i, ?_, far⟩
  rw [List.getElem?_append_left (List.getElem?_eq_some_iff.mp hi).1, hi]

/-- What was due for the last module of the path is there when that module is expanded. -/
theorem Due.leave {q : Requirement} (due : Due b answer (path ++ [q.id]) depth c levels r)
    (last : ∀ less : Int, less + path.length ≤ depth → c.Covers (b.needs answer) less q) :
    Due b answer path depth c levels r := by
  obtain covers | ⟨mode, i, hi, far⟩ := due
  · exact .inl covers
  · by_cases inner : i < path.length
    · rw [List.getElem?_append_left inner] at hi
      exact .inr ⟨mode, i, hi, far⟩
    · obtain ⟨bound, same⟩ := List.getElem?_eq_some_iff.mp hi
      obtain rfl : i = path.length := by simp at bound; omega
      rw [List.getElem_concat_length rfl] at same
      refine .inl ?_
      have covers := last levels far
      rwa [Cache.Covers, same, Builder.needs_congr same] at covers

theorem Closed.mono {path' : List ModuleId} (closed : Closed b answer path depth c)
    (due : ∀ levels q, Due b answer path depth c levels q → Due b answer path' depth c levels q) :
    Closed b answer path' depth c := fun r e he q hq => due _ q (closed r e he q hq)

theorem Closed.store {e : Cache.Entry} (closed : Closed b answer path depth c)
    (le : c.LE (c.store e)) (same : e.node.id = r.id)
    (children : ∀ q ∈ b.needs answer r, Due b answer path depth c (e.levels - 1) q) :
    Closed b answer path depth (c.store e) := by
  intro p f hf q hq
  obtain ⟨here, rfl⟩ | old := Cache.find?_of_store hf
  · rw [Builder.needs_congr (here.trans same)] at hq
    exact (children q hq).mono le
  · exact (closed p f old q hq).mono le

end

section
variable (answers : b.Answers fun r => answer r.id)
include answers

theorem Opens.due_of_done {depth : Nat} {node : Node}
    (opens : Opens b parent r path s n (.done (.ok node)) t) (level : n + path.length = depth)
    (sourced : s.cache.Sourced (b.known answer)) (closed : Closed b answer path depth s.cache) :
    Closed b answer path depth t.cache ∧ Due b answer path depth t.cache n r := by
  have le := opens.cache_le
  cases opens with
  | bare => exact ⟨closed, .inl (.inl (Int.le_refl _))⟩
  | cycle again mode =>
      obtain ⟨i, hi, same⟩ := List.mem_iff_getElem.mp again
      refine ⟨closed, .inr ⟨mode, i, by rw [List.getElem?_eq_getElem hi, same], ?_⟩⟩
      omega
  | shared new hit enough =>
      refine ⟨closed, .inl (.inr ⟨_, hit, ?_⟩)⟩
      exact enough.symm.imp_right (sourced.needs_of_unread hit)
  | search new miss settled =>
      have nothing := settled.needs_of_done answers
      obtain ⟨-, ⟨f, ok, -⟩ | ⟨l, resolution, -, cache⟩⟩ := settled.of_done
      · cases ok
      · rw [cache] at le ⊢
        exact ⟨closed.store (r := r) le rfl (by simp [nothing]), .inl (.store rfl)⟩

theorem Opens.due_of_finish {depth : Nat} {d : Draft} {ns : List Node}
    (opens : Opens b parent r path s (n + 1) (.expand d) t)
    (below : Expands b n (path ++ [r.id]) d.manifest d.manifest.requirements t (.ok ns) u)
    (level : n + 1 + path.length = depth) (sourced : s.cache.Sourced (b.known answer))
    (closed : Closed b answer (path ++ [r.id]) depth u.cache)
    (children : ∀ q ∈ d.manifest.requirements, Due b answer (path ++ [r.id]) depth u.cache n q) :
    Closed b answer path depth (d.finish (n + 1) r ns u).cache ∧
      Due b answer path depth (d.finish (n + 1) r ns u).cache (n + 1 : Nat) r := by
  have same := opens.find?_below below
  have needs := opens.needs_of_expand answers sourced
  -- The entry may be left with fewer levels than the run had, but only if nothing is required.
  have covers : (d.finish (n + 1) r ns u).cache.Covers (b.needs answer) (n + 1 : Nat) r := by
    obtain cache | ⟨cache, nothing, former⟩ := d.finish_cache (n + 1) r ns u
    · rw [cache]
      exact .store rfl
    · obtain ⟨e, kept, -⟩ := opens.find?_finish same ns
      subst nothing
      have none := List.length_eq_zero_iff.mp (below.length_eq rfl).symm
      exact .inr ⟨e, kept, .inr (needs.trans none)⟩
  refine ⟨?_, .inl covers⟩
  refine Closed.mono ?_ fun levels q due => due.leave fun less far => covers.anti (by omega)
  refine opens.finish_induction same (fun le => ?_) closed
  refine closed.store (r := r) le rfl fun q hq => ?_
  rw [needs] at hq
  exact (children q hq).anti (by simp)

/-- What a successful run was given is expanded to the levels it had left, and what was kept is
expanded as far as before or further. -/
theorem Expands.due {depth : Nat} (run : Expands b n path parent rs s o t) {ns : List Node}
    (ok : o = .ok ns) (level : n + path.length = depth)
    (sourced : s.cache.Sourced (b.known answer)) (closed : Closed b answer path depth s.cache) :
    Closed b answer path depth t.cache ∧ ∀ r ∈ rs, Due b answer path depth t.cache n r := by
  induction run generalizing ns with
  | nil => exact ⟨closed, nofun⟩
  | halt | sink => cases ok
  | @pass n path parent r rest s t u node o opens after ih =>
      cases o with
      | error f => cases ok
      | ok ms =>
          obtain ⟨closed, first⟩ := opens.due_of_done answers level sourced closed
          obtain ⟨closed, others⟩ := ih rfl level (opens.sourced answers sourced) closed
          exact ⟨closed, List.forall_mem_cons.mpr ⟨first.mono after.cache_le, others⟩⟩
  | @rise n path parent r rest s t u v d ms o opens below after ihBelow ihAfter =>
      cases o with
      | error f => cases ok
      | ok rest =>
          have within := opens.sourced answers sourced
          obtain ⟨closed, children⟩ := ihBelow rfl (level_enter level) within
            (by rw [opens.of_expand.1]; exact closed.mono fun _ _ => Due.enter)
          obtain ⟨closed, first⟩ := opens.due_of_finish answers below level sourced closed children
          obtain ⟨closed, others⟩ := ihAfter rfl level
            (opens.sourced_finish answers sourced (below.sourced answers within) _) closed
          exact ⟨closed, List.forall_mem_cons.mpr ⟨first.mono after.cache_le, others⟩⟩

end

section
variable {depth : Nat} {c : Cache}

theorem Due.covers_of_nil {levels : Int} (due : Due b answer [] depth c levels r) :
    c.Covers (b.needs answer) levels r :=
  due.resolve_right fun ⟨_, _, hi, _⟩ => nomatch hi

theorem Due.covers_of_strict {levels : Int} (due : Due b answer path depth c levels r)
    (strict : b.lenient = false) : c.Covers (b.needs answer) levels r :=
  due.resolve_right fun ⟨mode, _⟩ => nomatch strict.symm.trans mode

variable (closed : Closed b answer path depth c)
  (settled : ∀ {levels q}, Due b answer path depth c levels q → c.Covers (b.needs answer) levels q)
include closed settled

/-- When nothing is due, what is expanded to so many levels is expanded along every route. -/
theorem Closed.below {levels : Int} {q : Requirement} {route : Route}
    (here : c.Covers (b.needs answer) levels r)
    (h : Route.below (b.needs answer) r route = some q) :
    c.Covers (b.needs answer) (levels - route.length) q := by
  induction route generalizing r levels with
  | nil =>
      cases h
      exact here.anti (by simp)
  | cons i route ih =>
      obtain ⟨p, hp, hq⟩ := Option.bind_eq_some_iff.mp h
      have child := List.mem_of_getElem? hp
      by_cases positive : 0 < levels
      · obtain ⟨e, he, far | nothing⟩ := here.kept positive
        · have further := ih ((settled (closed r e he p child)).anti
            (by omega : levels - 1 ≤ e.levels - 1)) hq
          exact further.anti (by rw [List.length_cons]; omega)
        · rw [nothing] at child
          cases child
      · exact .inl (by omega)

theorem Closed.follow {n : Nat} {q : Requirement} {route : Route}
    (given : ∀ r ∈ rs, c.Covers (b.needs answer) n r)
    (h : Route.follow (b.needs answer) rs route = some q) :
    c.Covers (b.needs answer) (n + 1 - route.length) q := by
  cases route with
  | nil => cases h
  | cons i route =>
      obtain ⟨p, hp, hq⟩ := Option.bind_eq_some_iff.mp h
      have covers := closed.below settled (given p (List.mem_of_getElem? hp)) hq
      exact covers.anti (by rw [List.length_cons]; omega)

end

end Build

end Attribution

import Attribution.Proofs.Graph.Determinism
import Attribution.Proofs.Graph.Growth

/-!
What a traversal comes to look at. Each encounter is a requirement with the trail that led to it: the
modules that are being expanded, from the top down, each with the manifest it is expanded from. A
run fails just when it fails at an encounter, and what was kept anew was searched for at one.
-/

namespace Attribution

variable {σ : Type}

/-- Modules that are being expanded, each with the manifest it is expanded from. -/
abbrev Trail := List (ModuleId × PlacedManifest)

def Trail.ids (trail : Trail) : List ModuleId := trail.map (·.1)

/-- A requirement that is looked at, with so many levels left. -/
structure Encounter (σ : Type) where
  levels : Nat
  trail : Trail
  parent : PlacedManifest
  requirement : Requirement
  state : BuildState σ

/-- What is met is being expanded already. -/
def Encounter.Again (x : Encounter σ) : Prop := 0 < x.levels ∧ x.requirement.id ∈ x.trail.ids

namespace Trail

@[simp] theorem ids_nil : ids [] = [] := rfl

@[simp] theorem ids_concat (trail : Trail) (id : ModuleId) (m : PlacedManifest) :
    ids (trail ++ [(id, m)]) = trail.ids ++ [id] := List.map_append

theorem exists_ids (path : List ModuleId) (m : PlacedManifest) :
    ∃ trail : Trail, path = trail.ids :=
  ⟨path.map (·, m), by simp [ids, Function.comp_def]⟩

/-- Each module of the trail is required by the manifest before it, the first one among the given
requirements, and so is the last module by the manifest at the end. -/
def Leads : List Requirement → Trail → ModuleId → Prop
  | rs, [], last => last ∈ rs.map Requirement.id
  | rs, (id, m) :: rest, last => id ∈ rs.map Requirement.id ∧ Leads m.requirements rest last

theorem leads_append {rs : List Requirement} {front back : Trail} {id last : ModuleId}
    {m : PlacedManifest} :
    Leads rs (front ++ (id, m) :: back) last ↔
      Leads rs front id ∧ Leads m.requirements back last := by
  induction front generalizing rs with
  | nil => simp [Leads]
  | cons first front ih => simp only [List.cons_append, Leads, ih, and_assoc]

end Trail

namespace Build

/-- The encounters of a run over requirements with so many levels left, at the end of a trail. -/
inductive Meets (b : Builder σ) : Nat → Trail → PlacedManifest → List Requirement → BuildState σ →
    Encounter σ → Prop
  | here {n : Nat} {trail : Trail} {parent : PlacedManifest} {r : Requirement}
      {rest : List Requirement} {s : BuildState σ} :
      Meets b n trail parent (r :: rest) s ⟨n, trail, parent, r, s⟩
  | later {n : Nat} {trail : Trail} {parent : PlacedManifest} {r : Requirement}
      {rest : List Requirement} {s t : BuildState σ} {node : Node} {x : Encounter σ}
      (visited : (visit b n trail.ids parent r).run.run s = (.ok node, t))
      (meets : Meets b n trail parent rest t x) : Meets b n trail parent (r :: rest) s x
  | inside {n : Nat} {trail : Trail} {parent : PlacedManifest} {r : Requirement}
      {rest : List Requirement} {s t : BuildState σ} {d : Draft} {x : Encounter σ}
      (opens : Opens b parent r trail.ids s (n + 1) (.expand d) t)
      (meets : Meets b n (trail ++ [(r.id, d.manifest)]) d.manifest d.manifest.requirements t x) :
      Meets b (n + 1) trail parent (r :: rest) s x

variable {b : Builder σ} {parent : PlacedManifest} {r : Requirement} {path : List ModuleId}
  {s t u : BuildState σ} {n : Nat} {rs rest : List Requirement} {trail : Trail} {x : Encounter σ}

theorem visit_of_expands {node : Node} (run : Expands b n path parent [r] s (.ok [node]) t) :
    (visit b n path parent r).run.run s = (.ok node, t) := by
  obtain ⟨same, state⟩ := (expands_visit b n path parent r s).unique run
  rcases visited : (visit b n path parent r).run.run s with ⟨f | other, u⟩ <;>
    rw [visited] at same state
  · cases same
  · cases same
    cases state
    rfl

theorem Opens.visit_of_done {o : Except Failure Node}
    (opens : Opens b parent r path s n (.done o) t) :
    (visit b n path parent r).run.run s = (o, t) := by
  cases o with
  | ok node => exact visit_of_expands (.pass opens .nil)
  | error f =>
      obtain ⟨same, state⟩ := (expands_visit b n path parent r s).unique (.halt opens)
      rcases visited : (visit b n path parent r).run.run s with ⟨g | node, u⟩ <;>
        rw [visited] at same state
      · cases same
        cases state
        rfl
      · cases same

/-- A requirement that is resolved is done with at once, or is looked into. -/
theorem visit_cases {node : Node}
    (visited : (visit b n path parent r).run.run s = (.ok node, t)) :
    Opens b parent r path s n (.done (.ok node)) t ∨
      ∃ m d ns u v, n = m + 1 ∧ Opens b parent r path s (m + 1) (.expand d) u ∧
        Expands b m (path ++ [r.id]) d.manifest d.manifest.requirements u (.ok ns) v ∧
        node = d.node r ns ∧ t = d.finish (m + 1) r ns v := by
  have head := expands_visit b n path parent r s
  rw [visited] at head
  generalize outcome : Except.map _ (Except.ok node) = single at head
  cases head with
  | halt | sink => cases outcome
  | pass opens none =>
      cases none
      cases outcome
      exact .inl opens
  | rise opens below none =>
      cases none
      cases outcome
      exact .inr ⟨_, _, _, _, _, rfl, opens, below, rfl, rfl⟩

theorem Expands.of_visit {node : Node} {o : Except Failure (List Node)}
    (visited : (visit b n path parent r).run.run s = (.ok node, t))
    (after : Expands b n path parent rest t o u) :
    Expands b n path parent (r :: rest) s (o.map (node :: ·)) u := by
  obtain opens | ⟨m, d, ns, v, w, rfl, opens, below, rfl, rfl⟩ := visit_cases visited
  · exact .pass opens after
  · exact .rise opens below after

theorem Expands.exists_visit {ns : List Node}
    (run : Expands b n path parent (r :: rest) s (.ok ns) u) :
    ∃ node ms t, ns = node :: ms ∧ (visit b n path parent r).run.run s = (.ok node, t) ∧
      Expands b n path parent rest t (.ok ms) u := by
  generalize ok : Except.ok ns = outcome at run
  cases run with
  | halt | sink => cases ok
  | @pass _ _ _ _ _ _ _ _ node others opens after =>
      cases others <;> cases ok
      exact ⟨node, _, _, rfl, opens.visit_of_done, after⟩
  | @rise _ _ _ _ _ _ _ _ _ d ms others opens below after =>
      cases others <;> cases ok
      exact ⟨_, _, _, rfl, visit_of_expands (.rise opens below .nil), after⟩

theorem Expands.exists_below {ns : List Node} {d : Draft}
    (run : Expands b (n + 1) path parent (r :: rest) s (.ok ns) u)
    (opens : Opens b parent r path s (n + 1) (.expand d) t) :
    ∃ ms others v, ns = d.node r ms :: others ∧
      Expands b n (path ++ [r.id]) d.manifest d.manifest.requirements t (.ok ms) v := by
  generalize ok : Except.ok ns = outcome at run
  cases run with
  | halt | sink => cases ok
  | pass opens' => exact nomatch (opens.unique opens').1
  | @rise _ _ _ _ _ _ _ _ _ _ ms others opens' below after =>
      cases others <;> cases ok
      obtain ⟨same, rfl⟩ := opens.unique opens'
      cases same
      exact ⟨ms, _, _, rfl, below⟩

theorem Expands.exists_meets_of_error {o : Except Failure (List Node)} {f : Failure}
    (run : Expands b n path parent rs s o t) (failed : o = .error f) (along : path = trail.ids) :
    ∃ x, Meets b n trail parent rs s x ∧
      Opens b x.parent x.requirement x.trail.ids x.state x.levels (.done (.error f)) t := by
  induction run generalizing trail with
  | nil => cases failed
  | halt opens =>
      subst along
      cases failed
      exact ⟨_, .here, opens⟩
  | @pass n path parent r rest s t u node o opens after ih =>
      subst along
      cases o with
      | ok ns => cases failed
      | error g =>
          obtain ⟨x, meets, stops⟩ := ih failed rfl
          exact ⟨x, .later opens.visit_of_done meets, stops⟩
  | sink opens below ih =>
      subst along
      obtain ⟨x, meets, stops⟩ := ih failed (trail.ids_concat _ _).symm
      exact ⟨x, .inside opens meets, stops⟩
  | @rise n path parent r rest s t u v d ms o opens below after ihBelow ihAfter =>
      subst along
      cases o with
      | ok ns => cases failed
      | error g =>
          obtain ⟨x, meets, stops⟩ := ihAfter failed rfl
          exact ⟨x, .later (visit_of_expands (.rise opens below .nil)) meets, stops⟩

theorem Meets.error {f : Failure} (meets : Meets b n trail parent rs s x)
    (stops : Opens b x.parent x.requirement x.trail.ids x.state x.levels (.done (.error f)) t) :
    Expands b n trail.ids parent rs s (.error f) t := by
  induction meets with
  | here => exact .halt stops
  | later visited meets ih => exact .of_visit visited (ih stops)
  | inside opens meets ih =>
      have inner := ih stops
      rw [Trail.ids_concat] at inner
      exact .sink opens inner

/-- Every level that is used up is a module on the trail. -/
theorem Meets.levels_add (meets : Meets b n trail parent rs s x) :
    x.levels + x.trail.length = n + trail.length := by
  induction meets with
  | here => rfl
  | later visited meets ih => exact ih
  | inside opens meets ih =>
      rw [ih, List.length_append, List.length_singleton]
      omega

theorem Meets.nodup (meets : Meets b n trail parent rs s x) (once : trail.ids.Nodup) :
    x.trail.ids.Nodup := by
  induction meets with
  | here => exact once
  | later visited meets ih => exact ih once
  | inside opens meets ih =>
      apply ih
      have new := opens.of_expand.2.1
      rw [Trail.ids_concat, List.nodup_append]
      refine ⟨once, by simp, ?_⟩
      rintro id mem last here rfl
      rw [List.mem_singleton.mp here] at mem
      exact new mem

/-- The trail of an encounter goes on from where the run started, through modules that are required
one by the other, to the requirement that is met. -/
theorem Meets.leads (meets : Meets b n trail parent rs s x) :
    ∃ further, x.trail = trail ++ further ∧ further.Leads rs x.requirement.id := by
  induction meets with
  | here => exact ⟨[], (List.append_nil _).symm, List.mem_map_of_mem List.mem_cons_self⟩
  | later visited meets ih =>
      obtain ⟨further, onward, leads⟩ := ih
      refine ⟨further, onward, ?_⟩
      cases further with
      | nil => exact List.mem_cons_of_mem _ leads
      | cons first further => exact ⟨List.mem_cons_of_mem _ leads.1, leads.2⟩
  | @inside n trail parent r rest s t d x opens meets ih =>
      obtain ⟨further, onward, leads⟩ := ih
      refine ⟨(r.id, d.manifest) :: further, ?_, List.mem_map_of_mem List.mem_cons_self, leads⟩
      rw [onward, List.append_assoc, List.singleton_append]

/-- What holds of the kept modules, and of the nodes that are made with so many levels left, if the
encounters of a run see to it. -/
theorem Expands.upheld {Kept : Cache → Prop} {Good : Cache → Nat → Node → Prop}
    {o : Except Failure (List Node)} (run : Expands b n path parent rs s o t)
    (along : path = trail.ids)
    (grow : ∀ {c c' levels node}, c.LE c' → Good c levels node → Good c' levels node)
    (done : ∀ x, Meets b n trail parent rs s x → ∀ {node v},
      Opens b x.parent x.requirement x.trail.ids x.state x.levels (.done (.ok node)) v →
      Kept x.state.cache → Kept v.cache ∧ Good v.cache x.levels node)
    (finish : ∀ x, Meets b n trail parent rs s x → ∀ {m d ns v w}, x.levels = m + 1 →
      Opens b x.parent x.requirement x.trail.ids x.state (m + 1) (.expand d) v →
      Expands b m (x.trail.ids ++ [x.requirement.id]) d.manifest d.manifest.requirements v
        (.ok ns) w →
      Kept x.state.cache → Kept w.cache → (∀ node ∈ ns, Good w.cache m node) →
      Kept (d.finish (m + 1) x.requirement ns w).cache ∧
        Good (d.finish (m + 1) x.requirement ns w).cache (m + 1) (d.node x.requirement ns))
    (kept : Kept s.cache) :
    Kept t.cache ∧ ∀ ns, o = .ok ns → ∀ node ∈ ns, Good t.cache n node := by
  induction run generalizing trail with
  | nil =>
      refine ⟨kept, ?_⟩
      rintro ns ⟨⟩ node ⟨⟩
  | halt opens =>
      rw [opens.cache_of_error]
      exact ⟨kept, nofun⟩
  | @pass n path parent r rest s t u node o opens after ih =>
      subst along
      obtain ⟨kept, first⟩ := done _ .here opens kept
      have others := fun x (meets : Meets b n trail parent rest t x) =>
        Meets.later opens.visit_of_done meets
      obtain ⟨kept, later⟩ := ih rfl (fun x meets => done x (others x meets))
        (fun x meets => finish x (others x meets)) kept
      refine ⟨kept, fun ns ok => ?_⟩
      cases o with
      | error f => cases ok
      | ok ms =>
          cases ok
          exact List.forall_mem_cons.mpr ⟨grow after.cache_le first, later ms rfl⟩
  | sink opens below ih =>
      -- The run fails below the module, which is not kept then; what is below it may be.
      subst along
      rw [← opens.of_expand.1] at kept
      refine ⟨(ih (Trail.ids_concat _ _ _).symm (fun x meets => done x (.inside opens meets))
        (fun x meets => finish x (.inside opens meets)) kept).1, nofun⟩
  | @rise n path parent r rest s t u v d ms o opens below after ihBelow ihAfter =>
      subst along
      obtain ⟨inside, children⟩ := ihBelow (Trail.ids_concat _ _ _).symm
        (fun x meets => done x (.inside opens meets))
        (fun x meets => finish x (.inside opens meets)) (by rw [opens.of_expand.1]; exact kept)
      obtain ⟨kept, first⟩ := finish _ .here rfl opens below kept inside (children ms rfl)
      have others := fun x (meets : Meets b (n + 1) trail parent rest _ x) =>
        Meets.later (visit_of_expands (.rise opens below .nil)) meets
      obtain ⟨kept, later⟩ := ihAfter rfl (fun x meets => done x (others x meets))
        (fun x meets => finish x (others x meets)) kept
      refine ⟨kept, fun ns ok => ?_⟩
      cases o with
      | error f => cases ok
      | ok rest =>
          cases ok
          exact List.forall_mem_cons.mpr ⟨grow after.cache_le first, later rest rfl⟩

end Build

/-- The encounters of a build; one that is refused has none. -/
def Builder.Meets (b : Builder σ) (root : PlacedManifest) (depth : Int) (s : BuildState σ)
    (x : Encounter σ) : Prop :=
  ∃ n : Nat, depth = n ∧ Build.Meets b n [] root root.requirements
    (s.told .debug "Started building the dependency graph") x

namespace Builder

variable {b : Builder σ} {root : PlacedManifest} {depth : Int} {s t : BuildState σ}
  {x : Encounter σ} {f : Failure}

/-- An encounter that fails is the end of the build. -/
theorem Meets.error (meets : b.Meets root depth s x)
    (stops : Build.Opens b x.parent x.requirement x.trail.ids x.state x.levels
      (.done (.error f)) t) :
    (b.build root depth s).1 = .error f := by
  obtain ⟨n, rfl, meets⟩ := meets
  rw [build_of_expands (Build.Meets.error meets stops)]
  rfl

/-- A build that fails fails at an encounter, unless it is refused. -/
theorem exists_meets_of_error (failed : (b.build root depth s).1 = .error f) :
    depth < 0 ∧ f = .fault (.negativeDepth depth) ∨ ∃ x t, b.Meets root depth s x ∧
      Build.Opens b x.parent x.requirement x.trail.ids x.state x.levels (.done (.error f)) t := by
  obtain ⟨neg, refused⟩ | ⟨n, o, t, rfl, run, result⟩ := b.build_cases root depth s
  · rw [refused] at failed
    cases failed
    exact .inl ⟨neg, rfl⟩
  · rw [result] at failed
    cases o with
    | ok ns => cases failed
    | error g =>
        cases failed
        obtain ⟨x, meets, stops⟩ := run.exists_meets_of_error rfl Trail.ids_nil.symm
        exact .inr ⟨x, t, ⟨n, rfl, meets⟩, stops⟩

end Builder

end Attribution

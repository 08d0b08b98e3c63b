import Attribution.Proofs.Graph.Cycle
import Attribution.Proofs.Graph.Shape

/-!
The circles that are reported. A requirement that is met again below itself closes a circle: the
modules on the trail from its first occurrence on, each of them required by the manifest that the one
before is expanded from. What a strict build reports, and what a lenient build warns of, is that
circle; and no cycle is reported, or left in a tree, but where one was closed.
-/

namespace Attribution

variable {σ : Type}

namespace Trail

/-- The identities `ids` go around a circle of modules, from `r` back to `r`. The circle is entered from
the requirements `rs` by way of the trail `approach`, within a depth. -/
structure Circle (rs : List Requirement) (depth : Int) (approach circle : Trail) (r : Requirement)
    (ids : List ModuleId) : Prop where
  listed : ids = circle.ids ++ [r.id]
  closed : ids.head? = some r.id
  long : circle ≠ []
  distinct : circle.ids.Nodup
  linked : ∀ (i : Nat) id m, circle[i]? = some (id, m) →
    ∃ q ∈ m.requirements, ids[i + 1]? = some q.id
  entered : approach.Leads rs r.id
  near : (approach.length : Int) + 1 < depth

theorem exists_cut {trail : Trail} {id : ModuleId} (mem : id ∈ trail.ids) :
    ∃ front m back, trail = front ++ (id, m) :: back ∧
      trail.ids.dropWhile (· != id) = id :: ids back := by
  induction trail with
  | nil => exact nomatch mem
  | cons first trail ih =>
      obtain ⟨key, m⟩ := first
      by_cases here : key = id
      · subst here
        exact ⟨[], m, trail, rfl, by simp [ids]⟩
      · have later : id ∈ ids trail := (List.mem_cons.mp mem).resolve_left (Ne.symm here)
        obtain ⟨front, m', back, rfl, dropped⟩ := ih later
        refine ⟨(key, m) :: front, m', back, rfl, ?_⟩
        rw [← dropped]
        simp [ids, here]

theorem leads_getElem? {rs : List Requirement} {trail : Trail} {last : ModuleId}
    (leads : Leads rs trail last) :
    (∃ q ∈ rs, (trail.ids ++ [last])[0]? = some q.id) ∧
      ∀ (i : Nat) id m, trail[i]? = some (id, m) →
        ∃ q ∈ m.requirements, (trail.ids ++ [last])[i + 1]? = some q.id := by
  induction trail generalizing rs with
  | nil =>
      obtain ⟨q, mem, same⟩ := List.mem_map.mp leads
      exact ⟨⟨q, mem, by simp [same]⟩, nofun⟩
  | cons first trail ih =>
      obtain ⟨key, manifest⟩ := first
      obtain ⟨q, mem, same⟩ := List.mem_map.mp leads.1
      obtain ⟨head, others⟩ := ih leads.2
      refine ⟨⟨q, mem, by simp [ids, same]⟩, fun i id m at_i => ?_⟩
      cases i with
      | zero =>
          cases at_i
          exact head
      | succ i => exact others i id m at_i

end Trail

namespace Encounter

/-- The modules that are named when a circle is closed. -/
def reported (x : Encounter σ) : List ModuleId :=
  x.trail.ids.dropWhile (· != x.requirement.id) ++ [x.requirement.id]

end Encounter

/-- A circle was closed for the module in a build, or in what was kept before it. -/
def Builder.Closes (b : Builder σ) (root : PlacedManifest) (depth : Int) (s : BuildState σ)
    (id : ModuleId) : Prop :=
  (∃ x, b.Meets root depth s x ∧ x.Again ∧ x.requirement.id = id) ∨
    ∃ old ∈ s.cache.entries, ∃ n ∈ Node.nodes [old.2.node], n.resolution = .cycle ∧ n.id = id

/-- A collaborator reports the failure for some module. -/
def Builder.Relays (b : Builder σ) (f : Failure) : Prop :=
  ∃ (r : Requirement) (g : Failure), f = g.forModule r.version ∧
    ((∃ parent scene, ((b.resolver parent r).run.run scene).1 = .error g) ∨
      ∃ data scene, ((b.classifier data).run.run scene).1 = .error g)

namespace Build

variable {b : Builder σ} {parent : PlacedManifest} {r : Requirement} {path : List ModuleId}
  {s t : BuildState σ} {n : Nat} {rs : List Requirement} {trail : Trail} {x : Encounter σ}
  {o : Except Failure (List Node)}

/-- A cycle is reported where the module is on the path, or relayed. -/
theorem Opens.again_of_cyclic {f : Failure}
    (opens : Opens b parent r path s n (.done (.error f)) t) (cyclic : f.Cyclic) :
    (0 < n ∧ r.id ∈ path) ∧ b.lenient = false ∧
        f = .problem (.new (.cycle (path.dropWhile (· != r.id) ++ [r.id])) none (some r.version)) ∨
      b.Relays f := by
  cases opens with
  | cycleError again strict => exact .inl ⟨⟨Nat.zero_lt_succ _, again⟩, strict, rfl⟩
  | search new miss settled =>
      generalize made : b.verdict parent r (s.entered r).toScene = verdict at settled
      cases settled with
      | failed =>
          obtain ⟨g, failed, rfl⟩ := Verdict.of_fail made
          exact .inr ⟨r, g, rfl, .inl ⟨_, _, failed⟩⟩
      | unlicensed run =>
          cases licenses_of_run run with
          | refused given label => exact .inr ⟨r, _, rfl, .inr ⟨_, _, label⟩⟩
          | missing blank strict =>
              obtain ⟨p, ids, same, kind⟩ := cyclic
              cases same
              cases kind

section
variable {Q : ModuleId → Prop}

/-- Whatever cycle is closed in the node, its module has the property. -/
def Closing (Q : ModuleId → Prop) (node : Node) : Prop :=
  node.Throughout fun m => m.resolution = .cycle → Q m.id

theorem Closing.of_licensed {node : Node} (shaped : node.Shaped) (licensed : node.license.isSome)
    (below : ∀ m ∈ node.dependencies, Closing Q m) : Closing Q node := by
  refine Node.throughout_iff.mpr ⟨fun closes => ?_, below⟩
  have looked := shaped.resolution licensed
  simp [closes] at looked

theorem Opens.closing_of_done {node : Node}
    (opens : Opens b parent r path s n (.done (.ok node)) t) (formed : s.cache.Formed b.lenient)
    (met : 0 < n ∧ r.id ∈ path → Q r.id)
    (kept : ∀ entry ∈ s.cache.entries, Closing Q entry.2.node) :
    (∀ entry ∈ t.cache.entries, Closing Q entry.2.node) ∧ Closing Q node := by
  have shaped := (Node.throughout_iff.mp (opens.formed_of_done formed).2).1.1
  cases opens with
  | bare => exact ⟨kept, Node.throughout_iff.mpr ⟨nofun, nofun⟩⟩
  | cycle again mode =>
      exact ⟨kept, Node.throughout_iff.mpr ⟨fun _ => met ⟨Nat.zero_lt_succ _, again⟩, nofun⟩⟩
  | shared new hit enough =>
      have mem := Cache.mem_of_find? hit
      have below := (Node.throughout_iff.mp (kept _ mem)).2
      exact ⟨kept, .of_licensed shaped (formed _ mem).1.license below⟩
  | search new miss settled =>
      obtain ⟨-, ⟨f, ok, -⟩ | ⟨l, resolution, ok, cache⟩⟩ := settled.of_done
      · cases ok
      · cases ok
        have here : Closing Q ⟨r.version, r.replacement, some l, [], resolution⟩ :=
          .of_licensed shaped rfl nofun
        rw [cache]
        exact ⟨Cache.forall_store kept here, here⟩

/-- Where a node closes a circle, one was closed at an encounter, or in a kept tree. -/
theorem Expands.closing (run : Expands b n trail.ids parent rs s o t)
    (formed : s.cache.Formed b.lenient)
    (met : ∀ x, Meets b n trail parent rs s x → x.Again → Q x.requirement.id)
    (kept : ∀ entry ∈ s.cache.entries, Closing Q entry.2.node) :
    ∀ ns, o = .ok ns → ∀ node ∈ ns, Closing Q node := by
  let Kept := fun c : Cache =>
    c.Formed b.lenient ∧ ∀ entry ∈ c.entries, Closing Q entry.2.node
  let Good := fun (_ : Cache) (_ : Nat) (node : Node) =>
    node.Throughout (Node.Formed b.lenient) ∧ Closing Q node
  have both : Kept t.cache ∧ ∀ ns, o = .ok ns → ∀ node ∈ ns, Good t.cache n node :=
    run.upheld rfl (fun _ good => good) ?done ?finish ⟨formed, kept⟩
  · exact fun ns ok node mem => (both.2 ns ok node mem).2
  case done =>
    intro x meets node v opens ⟨formed, kept⟩
    obtain ⟨formed', shaped⟩ := opens.formed_of_done formed
    obtain ⟨kept', closing⟩ := opens.closing_of_done formed (met x meets) kept
    exact ⟨⟨formed', kept'⟩, shaped, closing⟩
  case finish =>
    intro x meets m d ns v w same opens below ⟨before, _⟩ ⟨inside, kept⟩ good
    obtain ⟨formed', shaped⟩ := (Build.formed b).finish opens below before inside
      fun node mem => (good node mem).1
    have licensed := (opens.formed_of_expand before ns).2.1
    have here : Closing Q (d.node x.requirement ns) :=
      .of_licensed (Node.throughout_iff.mp shaped).1.1 licensed fun node mem => (good node mem).2
    have kept' : ∀ entry ∈ (d.finish (m + 1) x.requirement ns w).cache.entries,
        Closing Q entry.2.node :=
      Draft.finish_induction (P := fun c => ∀ entry ∈ c.entries, Closing Q entry.2.node)
        (Cache.forall_store kept here) kept
    exact ⟨⟨formed', kept'⟩, shaped, here⟩

end

theorem Meets.circle (meets : Meets b n [] parent rs s x) (again : x.Again) :
    ∃ approach circle, x.trail = approach ++ circle ∧
      Trail.Circle rs n approach circle x.requirement x.reported := by
  obtain ⟨front, m, back, cut, dropped⟩ := Trail.exists_cut again.2
  obtain ⟨further, onward, leads⟩ := meets.leads
  have once := meets.nodup (by simp)
  have levels := meets.levels_add
  rw [List.nil_append] at onward
  rw [← onward, cut, Trail.leads_append] at leads
  have listed : x.reported = Trail.ids ((x.requirement.id, m) :: back) ++ [x.requirement.id] :=
    congrArg (· ++ [x.requirement.id]) dropped
  refine ⟨front, _, cut, listed, ?_, List.cons_ne_nil _ _, ?_, ?_, leads.1, ?_⟩
  · rw [listed]
    rfl
  · rw [cut, Trail.ids, List.map_append] at once
    exact (List.nodup_append.mp once).2.1
  · rw [listed]
    have around : Trail.Leads [x.requirement] ((x.requirement.id, m) :: back) x.requirement.id :=
      ⟨List.mem_cons_self, leads.2⟩
    exact (Trail.leads_getElem? around).2
  · have positive := again.1
    simp only [cut, List.length_append, List.length_cons, List.length_nil] at levels
    omega

end Build

namespace Builder

/-- Whenever a build closes a circle, whatever happened before it: what is reported goes around a
circle of modules, from one that is met within the depth. A strict build then fails, with the version
that is required again; a lenient one says so and goes on without the module. And nothing else than
that is called a cycle, but what collaborators call one or what was kept before. -/
theorem circle_of_build {b : Builder σ} {roots : PlacedManifest → Prop} {s : BuildState σ}
    (reachable : b.Reachable roots s) (root : PlacedManifest) (depth : Int) :
    (∀ x, b.Meets root depth s x → x.Again →
      (∃ approach circle, x.trail = approach ++ circle ∧
        Trail.Circle root.requirements depth approach circle x.requirement x.reported) ∧
      (b.lenient = false → (b.build root depth s).1 =
        .error (.problem (.new (.cycle x.reported) none (some x.requirement.version)))) ∧
      (b.lenient = true → ∃ t,
        (Build.visit b x.levels x.trail.ids x.parent x.requirement).run.run x.state =
          (.ok (.bare x.requirement .cycle), t) ∧
        ⟨.warning, "Cyclic dependency: " ++ " -> ".intercalate x.reported⟩ ∈ t.log)) ∧
    (∀ f, (b.build root depth s).1 = .error f → f.Cyclic →
      b.Relays f ∨ b.lenient = false ∧ ∃ x, b.Meets root depth s x ∧ x.Again ∧
        f = .problem (.new (.cycle x.reported) none (some x.requirement.version))) ∧
    ∀ t, (b.build root depth s).1 = .ok t → ∀ entry ∈ t.walk, entry.2.resolution = .cycle →
      b.Closes root depth s entry.2.id := by
  refine ⟨?_, ?_, ?_⟩
  · rintro ⟨levels, trail, parent, r, v⟩ meets ⟨positive, again⟩
    obtain ⟨n, rfl⟩ := Nat.exists_eq_succ_of_ne_zero (Nat.pos_iff_ne_zero.mp positive)
    refine ⟨?_, fun strict => ?_, fun mode => ?_⟩
    · obtain ⟨k, rfl, meets⟩ := meets
      exact meets.circle ⟨positive, again⟩
    · exact meets.error (.cycleError again strict)
    · refine ⟨_, Build.Opens.visit_of_done (.cycle again mode), ?_⟩
      exact List.mem_append_right _ (List.mem_singleton.mpr rfl)
  · intro f failed cyclic
    obtain ⟨-, rfl⟩ | ⟨x, t, meets, stops⟩ := exists_meets_of_error failed
    · obtain ⟨p, ids, same, -⟩ := cyclic
      cases same
    · obtain ⟨again, strict, same⟩ | relayed := stops.again_of_cyclic cyclic
      · exact .inr ⟨strict, x, meets, again, same⟩
      · exact .inl relayed
  · intro t built
    refine (t.forall_walk (P := fun m => m.resolution = .cycle → b.Closes root depth s m.id)).mpr ?_
    obtain ⟨-, refused⟩ | ⟨n, o, u, rfl, run, result⟩ := b.build_cases root depth s
    · rw [refused] at built
      cases built
    · rw [result] at built
      cases o with
      | error f => cases built
      | ok ns =>
          cases built
          have formed := upheld_of_reachable (Build.formed b) reachable
          rw [← Trail.ids_nil] at run
          refine run.closing formed ?_ ?_ ns rfl
          · exact fun x meets again => .inl ⟨x, ⟨n, rfl, meets⟩, again, rfl⟩
          · exact fun old mem m inside closes => .inr ⟨old, mem, m, inside, closes, rfl⟩

/-- The loop that is met through its second module is named from there. -/
theorem circle_of_build_looped :
    ∃ x approach circle,
      (looped.builder false).Meets (Chart.manifest "m" ["y", "a"]) 3 (.fresh ()) x ∧
      Trail.Circle (Chart.manifest "m" ["y", "a"]).requirements 3 approach circle x.requirement
        ["y@v1", "x@v1", "y@v1"] := by
  have shown : (match (loopedBuild ["y", "a"]).1 with
      | .ok _ => none
      | .error f => some f) = some (Failure.problem
        (.new (.cycle ["y@v1", "x@v1", "y@v1"]) none (some ⟨"y", "v1"⟩))) := by decide +kernel
  cases failed : (loopedBuild ["y", "a"]).1 with
  | ok t =>
      rw [failed] at shown
      cases shown
  | error f =>
      rw [failed] at shown
      cases shown
      have reachable : (looped.builder false).Reachable (fun _ => True) (.fresh ()) := .fresh ()
      obtain ⟨circles, reports, -⟩ := circle_of_build reachable (Chart.manifest "m" ["y", "a"]) 3
      obtain ⟨r, g, -, ⟨parent, scene, relayed⟩ | ⟨data, scene, relayed⟩⟩ |
          ⟨-, x, meets, again, same⟩ := reports _ failed ⟨_, _, rfl, rfl⟩
      · cases relayed
      · cases relayed
      · obtain ⟨⟨approach, circle, -, around⟩, -, -⟩ := circles x meets again
        have named : x.reported = ["y@v1", "x@v1", "y@v1"] :=
          Problem.Kind.cycle.inj (congrArg Problem.kind (Failure.problem.inj same)).symm
        exact ⟨x, approach, circle, meets, named ▸ around⟩

end Builder

end Attribution

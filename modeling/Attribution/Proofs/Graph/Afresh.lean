import Attribution.Proofs.Graph.Route

/-!
Building without a cache. `Afresh.build` resolves every occurrence of a module anew; it is what a
build with a cache is measured by. The main statement says that, in a graph without cycles, the
cache changes nothing but what lies deeper than was asked for: a build after any history fails as
the build afresh does, and otherwise its tree, cut at the depth, is the tree built afresh.
-/

namespace Attribution

variable {σ : Type}

namespace Node

/-- A tree of nodes down to a depth. What lies at this depth is left bare. -/
def cut : Nat → Node → Node
  | 0, n => .bare n.requirement .unexpanded
  | depth + 1, n =>
    ⟨n.version, n.replacement, n.license, n.dependencies.map (cut depth), n.resolution⟩

@[simp] theorem cut_requirement (depth : Nat) (n : Node) :
    (n.cut depth).requirement = n.requirement := by
  cases depth <;> rfl

theorem cut_cut {k depth : Nat} (h : k ≤ depth) (n : Node) : (n.cut depth).cut k = n.cut k := by
  induction k generalizing depth n with
  | zero => simp only [cut, cut_requirement]
  | succ k ih =>
      obtain ⟨depth, rfl⟩ : ∃ d, depth = d + 1 := ⟨depth - 1, by omega⟩
      simp only [cut, List.map_map, Node.mk.injEq, true_and, and_true]
      refine List.map_congr_left fun m _ => ?_
      exact ih (by omega) m

end Node

def Tree.cut (depth : Nat) (t : Tree) : Tree := ⟨t.root.cut depth⟩

namespace Afresh

variable (lenient : Bool) (found : Requirement → Except Failure Content)
  (name : Bytes → Except Failure String)

def license (r : Requirement) : Option Bytes → Except Failure License
  | some (byte :: bytes) =>
    match name (byte :: bytes) with
    | .ok label => .ok ⟨byte :: bytes, label⟩
    | .error f => .error (f.forModule r.version)
  | _ =>
    if lenient then .ok (.unknown r.version)
    else .error (.problem (.new (.licenseNotFound none) none (some r.version)))

/-- What a module is found to be: its license, how it was resolved, and its manifest. -/
def facts (r : Requirement) : Except Failure (License × Resolution × Option PlacedManifest) :=
  match Verdict.of lenient r.version (found r) with
  | .fail f => .error f
  | .skip _ => .ok (.unknown r.version, .skipped, none)
  | .settle content =>
    (license lenient name r content.license).map fun l =>
      (l, Build.resolutionOf content, content.manifest)

def resolve (r : Requirement) (below : PlacedManifest → Except Failure (List Node)) :
    Except Failure Node :=
  match facts lenient found name r with
  | .error f => .error f
  | .ok (l, resolution, none) => .ok ⟨r.version, r.replacement, some l, [], resolution⟩
  | .ok (l, resolution, some m) =>
    (below m).map fun dependencies => ⟨r.version, r.replacement, some l, dependencies, resolution⟩

/-- Resolves an occurrence of a module with so many levels left, on the given path from the root. -/
def visit : Nat → List ModuleId → Requirement → Except Failure Node
  | 0, _, r => .ok (.bare r .unexpanded)
  | n + 1, path, r =>
    if r.id ∈ path then
      if lenient then .ok (.bare r .cycle)
      else .error (.problem (.new (.cycle (path.dropWhile (· != r.id) ++ [r.id])) none
        (some r.version)))
    else
      resolve lenient found name r fun m => m.requirements.mapM (visit n (path ++ [r.id]))

def build (root : PlacedManifest) (depth : Nat) : Except Failure Tree :=
  (root.requirements.mapM (visit lenient found name depth [])).map (Tree.over root)

variable {lenient found name}

theorem known_of_facts {r : Requirement} {l : License} {resolution : Resolution}
    {manifest : Option PlacedManifest}
    (h : facts lenient found name r = .ok (l, resolution, manifest)) :
    Content.known lenient (found r) = manifest := by
  rw [← Verdict.manifest?_of lenient r.version]
  unfold facts at h
  cases verdict : Verdict.of lenient r.version (found r) with
  | fail f => simp [verdict] at h
  | skip p => simp_all [Verdict.manifest?]
  | settle content =>
      cases lic : license lenient name r content.license <;>
        simp_all [Except.map, Verdict.manifest?]

theorem resolve_congr {r : Requirement} {below below' : PlacedManifest → Except Failure (List Node)}
    (same : ∀ m, Content.known lenient (found r) = some m → below m = below' m) :
    resolve lenient found name r below = resolve lenient found name r below' := by
  unfold resolve
  rcases h : facts lenient found name r with f | ⟨l, resolution, _ | m⟩
  · rfl
  · rfl
  · simp only [same m (known_of_facts h)]

theorem resolve_cut {r : Requirement} {k : Nat} {node : Node}
    {below below' : PlacedManifest → Except Failure (List Node)}
    (ok : resolve lenient found name r below = .ok node)
    (less : ∀ m ms, Content.known lenient (found r) = some m → below m = .ok ms →
      below' m = .ok (ms.map (Node.cut k))) :
    resolve lenient found name r below' = .ok (node.cut (k + 1)) := by
  unfold resolve at ok ⊢
  rcases h : facts lenient found name r with f | ⟨l, resolution, _ | m⟩
  · simp [h] at ok
  · simp only [h, Except.ok.injEq] at ok ⊢
    subst ok
    rfl
  · simp only [h] at ok ⊢
    cases hb : below m with
    | error f => simp [hb, Except.map] at ok
    | ok ms =>
        rw [less m ms (known_of_facts h) hb]
        rw [hb] at ok
        cases ok
        rfl

theorem resolve_requirement {r : Requirement} {node : Node}
    {below : PlacedManifest → Except Failure (List Node)}
    (ok : resolve lenient found name r below = .ok node) : node.requirement = r := by
  unfold resolve at ok
  rcases h : facts lenient found name r with f | ⟨l, resolution, _ | m⟩
  · simp [h] at ok
  · simp only [h, Except.ok.injEq] at ok
    subst ok
    rfl
  · simp only [h] at ok
    cases hb : below m with
    | error f => simp [hb, Except.map] at ok
    | ok ms =>
        rw [hb] at ok
        cases ok
        rfl

theorem visit_requirement {n : Nat} {path : List ModuleId} {r : Requirement} {node : Node}
    (ok : visit lenient found name n path r = .ok node) : node.requirement = r := by
  cases n with
  | zero => cases ok; rfl
  | succ n =>
      rw [visit] at ok
      split at ok
      · split at ok <;> cases ok
        rfl
      · exact resolve_requirement ok

theorem mapM_cut {visitor visitor' : Requirement → Except Failure Node} {k : Nat}
    {rs : List Requirement} {ms : List Node} (ok : rs.mapM visitor = .ok ms)
    (less : ∀ r ∈ rs, ∀ node, visitor r = .ok node → visitor' r = .ok (node.cut k)) :
    rs.mapM visitor' = .ok (ms.map (Node.cut k)) := by
  induction rs generalizing ms with
  | nil => cases ok; rfl
  | cons r rest ih =>
      rw [List.mapM_cons] at ok ⊢
      cases hr : visitor r with
      | error f => simp [hr, bind, Except.bind] at ok
      | ok node =>
          cases hs : rest.mapM visitor with
          | error f => simp [hr, hs, bind, Except.bind] at ok
          | ok nodes =>
              rw [hr, hs] at ok
              cases ok
              rw [less r List.mem_cons_self node hr,
                ih hs fun q hq => less q (List.mem_cons_of_mem r hq)]
              rfl

/-- Whatever resolves with more levels left resolves with fewer, to what is above. -/
theorem visit_cut {n levels : Nat} {path : List ModuleId} {r : Requirement} {node : Node}
    (ok : visit lenient found name levels path r = .ok node) (h : n ≤ levels) :
    visit lenient found name n path r = .ok (node.cut n) := by
  induction n generalizing levels path r node with
  | zero => rw [Node.cut, visit_requirement ok, visit]
  | succ n ih =>
      obtain ⟨levels, rfl⟩ : ∃ l, levels = l + 1 := ⟨levels - 1, by omega⟩
      rw [visit] at ok ⊢
      split at ok
      next again =>
        rw [if_pos again]
        split at ok <;> cases ok
        simp [*]
        rfl
      next new =>
        rw [if_neg new]
        refine resolve_cut ok fun m ms _ hm => ?_
        exact mapM_cut hm fun q _ node hq => ih hq (by omega)

private theorem mapM_congr {visitor visitor' : Requirement → Except Failure Node}
    {rs : List Requirement} (same : ∀ r ∈ rs, visitor r = visitor' r) :
    rs.mapM visitor = rs.mapM visitor' := by
  induction rs with
  | nil => rfl
  | cons r rest ih =>
      rw [List.mapM_cons, List.mapM_cons, same r List.mem_cons_self,
        ih fun q hq => same q (List.mem_cons_of_mem r hq)]

theorem visit_leaf {n k : Nat} {path : List ModuleId} {r : Requirement} {node : Node}
    (new : r.id ∉ path) (alone : Content.known lenient (found r) = none)
    (ok : visit lenient found name (n + 1) path r = .ok node) :
    node.dependencies = [] ∧ visit lenient found name (k + 1) path r = .ok node := by
  rw [visit, if_neg new] at ok ⊢
  unfold resolve at ok ⊢
  rcases h : facts lenient found name r with f | ⟨l, resolution, _ | m⟩
  · simp [h] at ok
  · simp only [h, Except.ok.injEq] at ok ⊢
    subst ok
    exact ⟨rfl, rfl⟩
  · rw [known_of_facts h] at alone
    cases alone

theorem facts_of_visit {n : Nat} {path : List ModuleId} {r : Requirement} {node : Node}
    {m : PlacedManifest} (new : r.id ∉ path) (known : Content.known lenient (found r) = some m)
    (ok : visit lenient found name (n + 1) path r = .ok node) :
    ∃ l, node.license = some l ∧ facts lenient found name r = .ok (l, node.resolution, some m) := by
  rw [visit, if_neg new] at ok
  unfold resolve at ok
  rcases h : facts lenient found name r with f | ⟨l, resolution, _ | m'⟩
  · simp [h] at ok
  · rw [known_of_facts h] at known
    cases known
  · rw [known_of_facts h] at known
    cases known
    simp only [h] at ok
    cases hm : m.requirements.mapM (visit lenient found name n (path ++ [r.id])) with
    | error f => simp [hm, Except.map] at ok
    | ok ms =>
        rw [hm] at ok
        cases ok
        exact ⟨l, rfl, rfl⟩

/-- No module of a path is met at a requirement or below it. -/
def Away (next : Requirement → List Requirement) (path : List ModuleId) (r : Requirement) : Prop :=
  ∀ route q, Route.below next r route = some q → q.id ∉ path

/-- No module that is met below a requirement is met again below itself. -/
def Acyclic (next : Requirement → List Requirement) (r : Requirement) : Prop :=
  ∀ route p i rest q, Route.below next r route = some p → Route.below next p (i :: rest) = some q →
    q.id ≠ p.id

section
variable {next : Requirement → List Requirement} {path : List ModuleId} {r q : Requirement}

theorem Acyclic.child (acyclic : Acyclic next r) (h : q ∈ next r) : Acyclic next q := by
  intro route p i rest p' hp hp'
  obtain ⟨j, hj, rfl⟩ := List.mem_iff_getElem.mp h
  exact acyclic (j :: route) p i rest p' (by simp [Route.below, hj, hp]) hp'

theorem Away.child (away : Away next path r) (acyclic : Acyclic next r) (h : q ∈ next r) :
    Away next (path ++ [r.id]) q := by
  intro route p hp
  obtain ⟨j, hj, rfl⟩ := List.mem_iff_getElem.mp h
  have reached : Route.below next r (j :: route) = some p := by simp [Route.below, hj, hp]
  simp only [List.mem_append, List.mem_singleton, not_or]
  exact ⟨away _ _ reached, acyclic [] r j route p rfl reached⟩

theorem Away.not_mem (away : Away next path r) : r.id ∉ path := away [] r rfl

theorem Away.nil : Away next [] r := fun _ _ _ => List.not_mem_nil

end

/-- Away from the path it does not matter which path it is. -/
theorem visit_away {n : Nat} {path : List ModuleId} {r : Requirement}
    (away : Away (fun r => Content.requirements lenient (found r)) path r)
    (acyclic : Acyclic (fun r => Content.requirements lenient (found r)) r) :
    visit lenient found name n path r = visit lenient found name n [] r := by
  induction n generalizing path r with
  | zero => rfl
  | succ n ih =>
      rw [visit, visit, if_neg away.not_mem, if_neg List.not_mem_nil]
      refine resolve_congr fun m known => mapM_congr fun q hq => ?_
      have child : q ∈ Content.requirements lenient (found r) := by
        rwa [Content.requirements_of_known known]
      rw [ih (away.child acyclic child) (acyclic.child child),
        ih (Away.nil.child acyclic child) (acyclic.child child)]

/-- A set of requirements that holds whatever its modules require, without cycles, and in which an
identity stands for one requirement. -/
structure Domain (next : Requirement → List Requirement) (occurs : Requirement → Prop) : Prop where
  closed : ∀ {r q}, occurs r → q ∈ next r → occurs q
  acyclic : ∀ {r}, occurs r → Acyclic next r
  injective : ∀ {r q}, occurs r → occurs q → r.id = q.id → r = q

/-- Every kept module is, down to the levels it was expanded to, what it is afresh. -/
def Faithful (lenient : Bool) (found : Requirement → Except Failure Content)
    (name : Bytes → Except Failure String) (occurs : Requirement → Prop) (c : Cache) : Prop :=
  ∀ id e, c.find? id = some e → ∃ r L, occurs r ∧ r.id = id ∧ e.levels = (L + 1 : Nat) ∧
    e.manifest = Content.known lenient (found r) ∧ e.node.requirement = r ∧
    visit lenient found name (L + 1) [] r = .ok (e.node.cut (L + 1))

theorem Faithful.store {occurs : Requirement → Prop} {c : Cache} {r : Requirement} {node : Node}
    {n : Nat} {manifest : Option PlacedManifest} (faithful : Faithful lenient found name occurs c)
    (here : occurs r) (answers : node.requirement = r)
    (known : manifest = Content.known lenient (found r))
    (same : visit lenient found name (n + 1) [] r = .ok (node.cut (n + 1))) :
    Faithful lenient found name occurs (c.store ⟨node, (n + 1 : Nat), manifest⟩) := by
  intro id e he
  rw [Cache.find?_store] at he
  split at he
  next h =>
    cases he
    exact ⟨r, n, here, by rw [h, Node.id, answers], rfl, known, answers, same⟩
  next => exact faithful id e he

section
variable {b : Builder σ} {occurs : Requirement → Prop} {n : Nat} {path : List ModuleId}
  {parent : PlacedManifest} {r : Requirement} {s t : BuildState σ}

theorem license_of_run (labels : b.Labels name) {data : Option Bytes} {o : Except Failure License}
    (run : (Build.licenseFor b r data).run.run s = (o, t)) :
    license b.lenient name r data = o := by
  cases Build.licenses_of_run run with
  | labelled given label | refused given label =>
      rw [labels] at label
      simp only [given, license, label]
  | placeholder blank mode | missing blank mode =>
      match data with
      | some (byte :: bytes) => exact absurd rfl (blank byte bytes)
      | some [] | none => simp [license, mode]

theorem facts_of_done (labels : b.Labels name) {o : Except Failure Node}
    (settled : Build.Settles b r n s (Verdict.of b.lenient r.version (found r)) (.done o) t) :
    (∃ f, o = .error f ∧ facts b.lenient found name r = .error f ∧ t.cache = s.cache) ∨
    ∃ l resolution, o = .ok ⟨r.version, r.replacement, some l, [], resolution⟩ ∧
      facts b.lenient found name r = .ok (l, resolution, none) ∧
      t.cache = s.cache.store ⟨⟨r.version, r.replacement, some l, [], resolution⟩, n, none⟩ := by
  unfold facts
  generalize Verdict.of b.lenient r.version (found r) = verdict at settled
  cases settled with
  | failed => exact .inl ⟨_, rfl, rfl, rfl⟩
  | skipped => exact .inr ⟨_, _, rfl, rfl, rfl⟩
  | unlicensed run =>
      refine .inl ⟨_, rfl, ?_, (Build.licenseFor_frame run).1⟩
      simp only [license_of_run labels run, Except.map]
  | leaf run alone =>
      refine .inr ⟨_, _, rfl, ?_, ?_⟩
      · simp only [license_of_run labels run, Except.map, alone]
      · simp only [BuildState.kept_cache, BuildState.counted_cache, BuildState.told_cache,
          (Build.licenseFor_frame run).1]

theorem facts_of_expand (labels : b.Labels name) {d : Draft}
    (settled : Build.Settles b r n s (Verdict.of b.lenient r.version (found r)) (.expand d) t) :
    (∃ l, d.license = some l ∧
      facts b.lenient found name r = .ok (l, d.resolution, some d.manifest)) ∧
      t.cache = s.cache := by
  unfold facts
  generalize Verdict.of b.lenient r.version (found r) = verdict at settled
  cases settled with
  | found run known =>
      refine ⟨⟨_, rfl, ?_⟩, (Build.licenseFor_frame run).1⟩
      simp only [license_of_run labels run, Except.map, known]

variable (answers : b.Answers found) (labels : b.Labels name)
  (domain : Domain (fun r => Content.requirements b.lenient (found r)) occurs)
include answers labels domain

theorem opens_done {o : Except Failure Node} (here : occurs r)
    (away : Away (fun r => Content.requirements b.lenient (found r)) path r)
    (faithful : Faithful b.lenient found name occurs s.cache)
    (opens : Build.Opens b parent r path s n (.done o) t) :
    o.map (Node.cut n) = visit b.lenient found name n path r ∧
      Faithful b.lenient found name occurs t.cache := by
  cases opens with
  | bare => exact ⟨rfl, faithful⟩
  | cycle again mode | cycleError again mode => exact absurd again away.not_mem
  | @shared n e new hit enough =>
      obtain ⟨r', L, here', hid, levels, known, answered, same⟩ := faithful _ _ hit
      obtain rfl := domain.injective here' here hid
      have node : (⟨r'.version, r'.replacement, e.node.license, e.node.dependencies,
          e.node.resolution⟩ : Node) = e.node := by rw [← answered]; cases e.node; rfl
      refine ⟨?_, faithful⟩
      rw [visit_away away (domain.acyclic here), Except.map, node]
      obtain alone | enough := enough
      · rw [known] at alone
        obtain ⟨none, same'⟩ := visit_leaf (k := n) List.not_mem_nil alone same
        rw [same']
        simp only [Node.cut, List.map_eq_nil_iff] at none ⊢
        simp [none]
      · have down := visit_cut same (n := n + 1) (by omega)
        rw [Node.cut_cut (by omega)] at down
        exact down.symm
  | @search n _ _ new miss settled =>
      simp only [Builder.verdict, answers parent r] at settled
      rw [visit, if_neg new]
      rcases facts_of_done labels settled with ⟨f, rfl, hf, cache⟩ | ⟨l, res, rfl, hf, cache⟩
      · exact ⟨by simp only [resolve, hf, Except.map], by rw [cache]; exact faithful⟩
      · refine ⟨by simp only [resolve, hf, Except.map]; rfl, ?_⟩
        rw [cache]
        refine faithful.store here rfl (known_of_facts hf).symm ?_
        rw [visit, if_neg List.not_mem_nil]
        simp only [resolve, hf]
        rfl

theorem opens_expand {d : Draft} (here : occurs r)
    (faithful : Faithful b.lenient found name occurs s.cache)
    (opens : Build.Opens b parent r path s n (.expand d) t) :
    r.id ∉ path ∧ (∃ l, d.license = some l ∧
      facts b.lenient found name r = .ok (l, d.resolution, some d.manifest)) ∧
      Faithful b.lenient found name occurs t.cache := by
  cases opens with
  | @deepen n e m new hit known few =>
      obtain ⟨r', L, here', hid, levels, known', answered, same⟩ := faithful _ _ hit
      obtain rfl := domain.injective here' here hid
      rw [known] at known'
      obtain ⟨l, hl, hf⟩ := facts_of_visit List.not_mem_nil known'.symm same
      exact ⟨new, ⟨l, hl, hf⟩, faithful⟩
  | search new miss settled =>
      simp only [Builder.verdict, answers parent r] at settled
      obtain ⟨hf, cache⟩ := facts_of_expand labels settled
      exact ⟨new, hf, by rw [cache]; exact faithful⟩

omit answers labels in
theorem Faithful.finish {d : Draft} {l : License} {ns : List Node} (here : occurs r)
    (new : r.id ∉ path)
    (away : Away (fun r => Content.requirements b.lenient (found r)) path r)
    (license : d.license = some l)
    (facts : facts b.lenient found name r = .ok (l, d.resolution, some d.manifest))
    (below : d.manifest.requirements.mapM (visit b.lenient found name n (path ++ [r.id])) =
      .ok (ns.map (Node.cut n)))
    (faithful : Faithful b.lenient found name occurs t.cache) :
    visit b.lenient found name (n + 1) path r = .ok ((d.node r ns).cut (n + 1)) ∧
      Faithful b.lenient found name occurs (d.finish (n + 1) r ns t).cache := by
  have same : visit b.lenient found name (n + 1) path r = .ok ((d.node r ns).cut (n + 1)) := by
    rw [visit, if_neg new, resolve, facts]
    simp only [below, Except.map, Node.cut, Draft.node, license]
  refine ⟨same, Draft.finish_induction ?_ faithful⟩
  refine faithful.store here rfl (known_of_facts facts).symm ?_
  rw [← visit_away away (domain.acyclic here)]
  exact same

omit answers labels in
theorem Domain.below {m : PlacedManifest} (here : occurs r)
    (away : Away (fun r => Content.requirements b.lenient (found r)) path r)
    (known : Content.known b.lenient (found r) = some m) (q : Requirement)
    (h : q ∈ m.requirements) :
    occurs q ∧ Away (fun r => Content.requirements b.lenient (found r)) (path ++ [r.id]) q := by
  have child : q ∈ Content.requirements b.lenient (found r) := by
    rwa [Content.requirements_of_known known]
  exact ⟨domain.closed here child, away.child (domain.acyclic here) child⟩

/-- A run ends as the requirements end afresh, up to what lies deeper than the levels it was given,
and leaves faithful what it found so. The induction follows the run; since the graph has no cycles
the path is never met again, so what was kept on another path is as good on this one. -/
theorem expands_afresh {rs : List Requirement} {o : Except Failure (List Node)}
    (run : Build.Expands b n path parent rs s o t) (here : ∀ r ∈ rs, occurs r)
    (away : ∀ r ∈ rs, Away (fun r => Content.requirements b.lenient (found r)) path r)
    (faithful : Faithful b.lenient found name occurs s.cache) :
    o.map (List.map (Node.cut n)) = rs.mapM (visit b.lenient found name n path) ∧
      Faithful b.lenient found name occurs t.cache := by
  induction run with
  | nil => exact ⟨rfl, faithful⟩
  | halt opens =>
      obtain ⟨same, faithful⟩ := opens_done answers labels domain (here _ List.mem_cons_self)
        (away _ List.mem_cons_self) faithful opens
      rw [List.mapM_cons, ← same]
      exact ⟨rfl, faithful⟩
  | @pass n path parent r rest s t u node o opens after ih =>
      obtain ⟨same, faithful⟩ := opens_done answers labels domain (here _ List.mem_cons_self)
        (away _ List.mem_cons_self) faithful opens
      obtain ⟨others, faithful⟩ := ih (fun q hq => here q (List.mem_cons_of_mem r hq))
        (fun q hq => away q (List.mem_cons_of_mem r hq)) faithful
      rw [List.mapM_cons, ← same, ← others]
      exact ⟨by cases o <;> rfl, faithful⟩
  | @sink n path parent r rest s t u d f opens below ih =>
      have here' := here r List.mem_cons_self
      have away' := away r List.mem_cons_self
      obtain ⟨new, ⟨l, hl, facts⟩, faithful⟩ :=
        opens_expand answers labels domain here' faithful opens
      have children := domain.below here' away' (known_of_facts facts)
      obtain ⟨same, faithful⟩ := ih (fun q hq => (children q hq).1) (fun q hq => (children q hq).2)
        faithful
      rw [List.mapM_cons, visit, if_neg new, resolve, facts]
      simp only [← same]
      exact ⟨rfl, faithful⟩
  | @rise n path parent r rest s t u v d ns o opens below after ihBelow ihAfter =>
      have here' := here r List.mem_cons_self
      have away' := away r List.mem_cons_self
      obtain ⟨new, ⟨l, hl, facts⟩, faithful⟩ :=
        opens_expand answers labels domain here' faithful opens
      have children := domain.below here' away' (known_of_facts facts)
      obtain ⟨inside, faithful⟩ := ihBelow (fun q hq => (children q hq).1)
        (fun q hq => (children q hq).2) faithful
      obtain ⟨same, faithful⟩ := faithful.finish domain here' new away' hl facts inside.symm
      obtain ⟨others, faithful⟩ := ihAfter (fun q hq => here q (List.mem_cons_of_mem r hq))
        (fun q hq => away q (List.mem_cons_of_mem r hq)) faithful
      rw [List.mapM_cons, same, ← others]
      exact ⟨by cases o <;> rfl, faithful⟩

end

/-- Roots from which no route meets a module twice, and no identity stands for two requirements,
span a domain. -/
theorem Domain.of_roots {roots : PlacedManifest → Prop} {next : Requirement → List Requirement}
    (injective : ∀ r q, Met roots next r → Met roots next q → r.id = q.id → r = q)
    (acyclic : ∀ root route, roots root → ¬ Route.Closes next root.requirements route) :
    Domain next (Met roots next) where
  closed met h := met.step h
  injective := injective _ _
  acyclic := by
    rintro r ⟨root, route, given, hr⟩ inner p i rest q hp hq same
    refine acyclic root (route ++ inner ++ i :: rest) given
      ⟨route ++ inner, p, q, List.prefix_append _ _, by simp, ?_, ?_, same.symm⟩
    · rw [Route.follow_append hr, hp]
    · rw [Route.follow_append (by rw [Route.follow_append hr, hp]), hq]

theorem faithful_of_reachable {b : Builder σ} {roots : PlacedManifest → Prop} {s : BuildState σ}
    (answers : b.Answers found) (labels : b.Labels name)
    (domain : Domain (fun r => Content.requirements b.lenient (found r))
      (Met roots fun r => Content.requirements b.lenient (found r)))
    (reachable : b.Reachable roots s) :
    Faithful b.lenient found name (Met roots fun r => Content.requirements b.lenient (found r))
      s.cache := by
  induction reachable with
  | fresh world | forget before ih => intro id e h; cases h
  | @build s root depth before given ih =>
      obtain ⟨-, refused⟩ | ⟨n, o, t, rfl, run, result⟩ := b.build_cases root depth s
      · rw [refused]
        exact ih
      · rw [result, Builder.closed_cache]
        exact (expands_afresh answers labels domain run (fun r hr => .first given hr)
          (fun r _ => Away.nil) ih).2

/-- In a graph without cycles the cache changes nothing but what lies deeper than was asked for.
After any history of builds, failed ones among them, a build fails as it does afresh, and otherwise
its tree down to the depth is the one built afresh. -/
theorem build_cut_eq_afresh {b : Builder σ} {roots : PlacedManifest → Prop} {s : BuildState σ}
    (answers : b.Answers found) (labels : b.Labels name)
    (injective : ∀ r q, Met roots (fun r => Content.requirements b.lenient (found r)) r →
      Met roots (fun r => Content.requirements b.lenient (found r)) q → r.id = q.id → r = q)
    (acyclic : ∀ root route, roots root →
      ¬ Route.Closes (fun r => Content.requirements b.lenient (found r)) root.requirements route)
    (reachable : b.Reachable roots s) {root : PlacedManifest} (given : roots root) (depth : Nat) :
    (b.build root depth s).1.map (Tree.cut (depth + 1)) =
      build b.lenient found name root depth := by
  have domain := Domain.of_roots injective acyclic
  have faithful := faithful_of_reachable answers labels domain reachable
  obtain ⟨o, t, run, result⟩ := b.expands_build root depth s
  obtain ⟨same, -⟩ := expands_afresh answers labels domain run (fun r hr => .first given hr)
    (fun r _ => Away.nil) faithful
  rw [result, build, ← same]
  cases o <;> rfl

/-- A module that is met below another one first, and again nearer to the root. -/
def nearer : Chart := fun id => if id = "a@v1" then ["c"] else if id = "c@v1" then ["d"] else []

/-- The second build expands what the first one left bare, and keeps what it found. -/
theorem build_cut_eq_afresh_nearer :
    (((nearer.builder false).build (Chart.manifest "m" ["a", "c"]) 2
      ((nearer.builder false).build (Chart.manifest "m" ["a", "c"]) 1 (.fresh ())).2).1.map
        (Tree.cut 3) =
      build false (fun r => nearer.content r.id) (fun _ => .ok "MIT")
        (Chart.manifest "m" ["a", "c"]) 2) ∧
    (build false (fun r => nearer.content r.id) (fun _ => .ok "MIT")
      (Chart.manifest "m" ["a", "c"]) 2).isOk := by
  let root := Chart.manifest "m" ["a", "c"]
  let next := fun r : Requirement => Content.requirements false (nearer.content r.id)
  let modules := ["a", "c", "d"].map Chart.requirement
  let rank : ModuleId → Nat := fun id => if id = "a@v1" then 2 else if id = "c@v1" then 1 else 0
  have first : ∀ r ∈ root.requirements, r ∈ modules := by decide
  have step : ∀ r ∈ modules, ∀ q ∈ next r, q ∈ modules ∧ rank q.id < rank r.id := by decide
  have met : ∀ r, Met (· = root) next r → r ∈ modules := fun r =>
    Met.induction (fun _ r given h => first r (given ▸ h)) (fun r q hr h => (step r hr q h).1)
  have injective : ∀ r ∈ modules, ∀ q ∈ modules, r.id = q.id → r = q := by decide
  refine ⟨?_, by decide⟩
  exact build_cut_eq_afresh (nearer.builder_answers false) (nearer.builder_labels false)
    (fun r q hr hq => injective r (met r hr) q (met q hq))
    (fun _ route given => given ▸ Route.not_closes_of_rank first (fun r q hr h => step r hr q h))
    (.build 1 (.fresh ()) rfl) rfl 2

end Afresh

end Attribution

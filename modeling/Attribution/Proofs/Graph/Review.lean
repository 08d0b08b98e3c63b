import Mathlib.Data.List.Nodup
import Attribution.Proofs.Graph.Constancy

/-!
Which modules a report asks to review. A module without a license of its own is kept under a
placeholder, and every occurrence that shows what is kept carries its label. So the modules under that
label are those which a search left wanting, and each of them is in the tree.
-/

namespace Attribution

variable {σ : Type}

def Resolution.isDegraded : Resolution → Bool
  | .skipped | .unlicensed => true
  | _ => false

/-- Nothing could be fetched, or a license text is missing or empty. -/
def Content.Wanting : Except Failure Content → Prop
  | .ok content => content.license = none ∨ content.license = some []
  | .error (.problem p) => p.kind.isFetch ∨ ∃ manifest, p.kind = .licenseNotFound manifest
  | .error (.fault _) => False

/-- A license is labelled as unknown just when it stands in for one. -/
def License.Tells (license : Option License) (resolution : Resolution) : Prop :=
  ∀ l, license = some l → (l.name = unknownName ↔ resolution.isDegraded)

/-- The classifier leaves the label of the placeholders alone. -/
def Builder.Discerns (b : Builder σ) : Prop :=
  ∀ data scene, ((b.classifier data).run.run scene).1 ≠ .ok License.unknownName

namespace Encounter

/-- What is met has to be searched for. -/
def Searches (x : Encounter σ) : Prop :=
  0 < x.levels ∧ x.requirement.id ∉ x.trail.ids ∧ x.state.cache.find? x.requirement.id = none

/-- What a search comes to. -/
def found (b : Builder σ) (x : Encounter σ) : Except Failure Content :=
  ((b.resolver x.parent x.requirement).run.run (x.state.entered x.requirement).toScene).1

end Encounter

/-- The license and the resolution of the node that is made, unless it fails. -/
def Opening.shown : Opening → Option (Option License × Resolution)
  | .done (.ok node) => some (node.license, node.resolution)
  | .done (.error _) => none
  | .expand d => some (d.license, d.resolution)

/-- A node with this license and this resolution is made where the requirement is met. -/
def Encounter.Shows (x : Encounter σ) (b : Builder σ) (license : Option License)
    (resolution : Resolution) : Prop :=
  ∃ opening t, Build.Opens b x.parent x.requirement x.trail.ids x.state x.levels opening t ∧
    opening.shown = some (license, resolution)

theorem Verdict.wanting_of_skip {lenient : Bool} {v : ModuleVersion}
    {found : Except Failure Content} {p : Problem} (made : Verdict.of lenient v found = .skip p) :
    Content.Wanting found := by
  match found with
  | .ok content => cases made
  | .error (.fault f) => cases made
  | .error (.problem q) =>
      simp only [Verdict.of] at made
      split at made
      next skips => exact .inl (Bool.and_eq_true_iff.mp skips).2
      next => split at made <;> cases made

theorem Verdict.settle_cases {lenient : Bool} {v : ModuleVersion}
    {found : Except Failure Content} {content : Content}
    (made : Verdict.of lenient v found = .settle content) :
    found = .ok content ∨ lenient = true ∧ content.license = none ∧
      ∃ p manifest, found = .error (.problem p) ∧ p.kind = .licenseNotFound manifest := by
  match found with
  | .ok content =>
      cases made
      exact .inl rfl
  | .error (.fault f) => cases made
  | .error (.problem p) =>
      simp only [Verdict.of] at made
      split at made
      · cases made
      · split at made
        next manifest kind _ =>
          cases made
          exact .inr ⟨rfl, rfl, p, manifest, rfl, kind⟩
        next => cases made

theorem Verdict.wanting_of_settle {lenient : Bool} {v : ModuleVersion}
    {found : Except Failure Content} {content : Content}
    (made : Verdict.of lenient v found = .settle content) :
    Content.Wanting found ↔ content.license = none ∨ content.license = some [] := by
  obtain rfl | ⟨-, missing, p, manifest, rfl, kind⟩ := Verdict.settle_cases made
  · exact Iff.rfl
  · exact ⟨fun _ => .inl missing, fun _ => .inr ⟨manifest, kind⟩⟩

namespace Build

variable {b : Builder σ} {parent : PlacedManifest} {r : Requirement} {path : List ModuleId}
  {s t u : BuildState σ} {n : Nat} {rs : List Requirement} {trail : Trail} {x : Encounter σ}
  {o : Except Failure (List Node)} {license : Option License} {resolution : Resolution}

theorem isDegraded_resolutionOf (content : Content) :
    (resolutionOf content).isDegraded ↔ content.license = none ∨ content.license = some [] := by
  rcases content with ⟨manifest, _ | _ | ⟨byte, bytes⟩⟩ <;> cases manifest <;>
    simp [resolutionOf, Resolution.isDegraded]

theorem blank_of_ne {data : Option Bytes} (blank : ∀ byte bytes, data ≠ some (byte :: bytes)) :
    data = none ∨ data = some [] := by
  rcases data with _ | _ | ⟨byte, bytes⟩
  · exact .inl rfl
  · exact .inr rfl
  · exact absurd rfl (blank byte bytes)

theorem tells_of_content (discerns : b.Discerns) {content : Content} {l : License}
    (run : (licenseFor b r content.license).run.run s = (.ok l, t)) :
    License.Tells (some l) (resolutionOf content) := by
  rintro _ ⟨⟩
  rw [isDegraded_resolutionOf]
  cases licenses_of_run run with
  | @labelled byte bytes name given label =>
      have other : name ≠ License.unknownName := by
        rintro rfl
        exact discerns _ _ label
      simp [given, other]
  | placeholder blank mode =>
      exact ⟨fun _ => blank_of_ne blank, fun _ => rfl⟩

/-- A module that is settled is degraded when the search left it wanting, and labelled so. -/
theorem Settles.shown (discerns : b.Discerns) {found : Except Failure Content} {opening : Opening}
    (settled : Settles b r n s (.of b.lenient r.version found) opening t)
    (shown : opening.shown = some (license, resolution)) :
    (resolution.isDegraded ↔ Content.Wanting found) ∧ License.Tells license resolution := by
  generalize made : Verdict.of b.lenient r.version found = verdict at settled
  cases settled with
  | failed | unlicensed => cases shown
  | skipped =>
      cases shown
      refine ⟨⟨fun _ => Verdict.wanting_of_skip made, fun _ => rfl⟩, ?_⟩
      rintro _ ⟨⟩
      exact ⟨fun _ => rfl, fun _ => rfl⟩
  | leaf run | found run =>
      cases shown
      rw [Verdict.wanting_of_settle made]
      exact ⟨isDegraded_resolutionOf _, tells_of_content discerns run⟩

theorem Settles.licensed {verdict : Verdict} {opening : Opening}
    (settled : Settles b r n s verdict opening t)
    (shown : opening.shown = some (license, resolution)) : license.isSome := by
  cases settled with
  | failed | unlicensed => cases shown
  | skipped | leaf | found =>
      cases shown
      rfl

theorem settles_of_searches (searches : x.Searches) (shows : x.Shows b license resolution) :
    ∃ opening s t, Settles b x.requirement x.levels s
      (.of b.lenient x.requirement.version (x.found b)) opening t ∧
      opening.shown = some (license, resolution) := by
  obtain ⟨levels, trail, parent, r, v⟩ := x
  obtain ⟨positive, new, miss⟩ := searches
  obtain ⟨opening, t, opens, shown⟩ := shows
  cases opens with
  | bare => exact absurd positive (Nat.lt_irrefl 0)
  | cycle again | cycleError again => exact absurd again new
  | shared _ hit | deepen _ hit => exact nomatch miss.symm.trans hit
  | search _ _ settled => exact ⟨opening, _, t, settled, shown⟩

theorem licensed_of_searches (searches : x.Searches) (shows : x.Shows b license resolution) :
    license.isSome := by
  obtain ⟨opening, u, t, settled, shown⟩ := settles_of_searches searches shows
  exact settled.licensed shown

/-- A module that has to be searched for is shown as it is found. -/
theorem shows_of_searches (discerns : b.Discerns) (searches : x.Searches)
    (shows : x.Shows b license resolution) :
    (resolution.isDegraded ↔ Content.Wanting (x.found b)) ∧ License.Tells license resolution := by
  obtain ⟨opening, u, t, settled, shown⟩ := settles_of_searches searches shows
  exact settled.shown discerns shown

/-- What a module is kept with, it was shown with where it was searched for. -/
theorem Expands.stems {Origin : ModuleId → Option License → Resolution → Prop}
    (run : Expands b n trail.ids parent rs s o t)
    (origin : ∀ x, Meets b n trail parent rs s x → x.Searches → ∀ license resolution,
      x.Shows b license resolution → Origin x.requirement.id license resolution)
    (before : ∀ id e, s.cache.find? id = some e → Origin id e.node.license e.node.resolution) :
    ∀ id e, t.cache.find? id = some e → Origin id e.node.license e.node.resolution := by
  let Kept := fun c : Cache =>
    ∀ id e, c.find? id = some e → Origin id e.node.license e.node.resolution
  let Good := fun (_ : Cache) (_ : Nat) (_ : Node) => True
  have both : Kept t.cache ∧ ∀ ns, o = .ok ns → ∀ node ∈ ns, Good t.cache n node :=
    run.upheld rfl (fun _ good => good) ?done ?finish before
  · exact both.1
  case done =>
    rintro ⟨levels, trail, parent, r, v⟩ meets node w opens kept
    refine ⟨fun id e found => ?_, trivial⟩
    cases opens with
    | bare | cycle | shared => exact kept id e found
    | search new miss settled =>
        obtain ⟨-, ⟨f, ok, -⟩ | ⟨l, resolution, ok, cache⟩⟩ := settled.of_done
        · cases ok
        · cases ok
          rw [cache] at found
          obtain ⟨rfl, rfl⟩ | old := Cache.find?_of_store found
          · refine origin _ meets ⟨Nat.zero_lt_succ _, new, miss⟩ _ _ ?_
            exact ⟨_, _, .search new miss settled, rfl⟩
          · exact kept id e old
  case finish =>
    rintro ⟨levels, trail, parent, r, v⟩ meets m d ns w z same opens below before kept -
    subst same
    refine ⟨?_, trivial⟩
    refine Draft.finish_induction (P := Kept) (fun id e found => ?_) kept
    obtain ⟨rfl, rfl⟩ | old := Cache.find?_of_store found
    · obtain ⟨-, new, ⟨miss, -⟩ | ⟨e, hit, -, -, -, license, resolution, -⟩⟩ := opens.of_expand
      · exact origin _ meets ⟨Nat.zero_lt_succ _, new, miss⟩ _ _ ⟨_, _, opens, rfl⟩
      · -- A kept module that is expanded further is shown as it was kept.
        have old := before _ e hit
        rwa [license, resolution] at old
    · exact kept id e old

theorem shows_of_visit {node : Node}
    (visited :
      (visit b x.levels x.trail.ids x.parent x.requirement).run.run x.state = (.ok node, t)) :
    x.Shows b node.license node.resolution ∧ node.id = x.requirement.id := by
  obtain opens | ⟨m, d, ns, u, v, levels, opens, below, rfl, rfl⟩ := visit_cases visited
  · exact ⟨⟨_, _, opens, rfl⟩, congrArg Requirement.id opens.requirement_eq⟩
  · rw [← levels] at opens
    exact ⟨⟨_, _, opens, rfl⟩, rfl⟩

/-- In a run that succeeds every encounter comes to a node of what is handed back. -/
theorem Meets.mem_nodes (meets : Meets b n trail parent rs s x) {ns : List Node}
    (run : Expands b n trail.ids parent rs s (.ok ns) t) :
    ∃ node u,
      (visit b x.levels x.trail.ids x.parent x.requirement).run.run x.state = (.ok node, u) ∧
        node ∈ Node.nodes ns := by
  induction meets generalizing ns t with
  | here =>
      obtain ⟨node, ms, u, rfl, visited, -⟩ := run.exists_visit
      exact ⟨node, u, visited, Node.mem_nodes_of_mem List.mem_cons_self⟩
  | later visited meets ih =>
      obtain ⟨node, ms, u, rfl, visited', after⟩ := run.exists_visit
      cases visited.symm.trans visited'
      obtain ⟨node', v, visits, mem⟩ := ih after
      exact ⟨node', v, visits, Node.mem_nodes_cons.mpr (.inr (.inr mem))⟩
  | @inside n trail parent r rest s t d x opens meets ih =>
      obtain ⟨ms, others, u, rfl, below⟩ := run.exists_below opens
      rw [← Trail.ids_concat _ _ d.manifest] at below
      obtain ⟨node, v, visits, mem⟩ := ih below
      exact ⟨node, v, visits, Node.mem_nodes_cons.mpr (.inr (.inl mem))⟩

end Build

namespace Tree

/-- The modules that are skipped or unlicensed somewhere in the walk, in the order in which it comes to
them first. -/
def degraded (t : Tree) : List ModuleId :=
  (t.walk.map (·.2.id)).eraseDups.filter fun id =>
    t.walk.any fun entry => entry.2.id = id && entry.2.resolution.isDegraded

theorem degraded_nodup (t : Tree) : t.degraded.Nodup := by
  rw [degraded, ← modules_ids]
  exact t.modules_nodup.filter _

private theorem any_degraded {t : Tree} {id : ModuleId} :
    (t.walk.any fun entry => entry.2.id = id && entry.2.resolution.isDegraded) ↔
      ∃ n ∈ Node.nodes t.root.dependencies, n.id = id ∧ n.resolution.isDegraded := by
  simp only [← walk_nodes, List.any_eq_true, List.mem_map, Bool.and_eq_true, decide_eq_true_eq,
    exists_exists_and_eq_and]

theorem mem_degraded {t : Tree} {id : ModuleId} :
    id ∈ t.degraded ↔
      ∃ n ∈ Node.nodes t.root.dependencies, n.id = id ∧ n.resolution.isDegraded := by
  rw [degraded, List.mem_filter, List.mem_eraseDups, any_degraded]
  refine and_iff_right_of_imp fun ⟨n, mem, same, _⟩ => ?_
  obtain ⟨entry, inside, rfl⟩ := List.mem_map.mp (walk_nodes t ▸ mem)
  exact List.mem_map.mpr ⟨entry, inside, same⟩

theorem licensed_of_degraded {n : Node} (shaped : n.Shaped) (degraded : n.resolution.isDegraded) :
    n.license.isSome := by
  have unattested : n.Unattested := by
    unfold Node.Shaped at shaped
    cases resolution : n.resolution <;> rw [resolution] at shaped degraded
    case skipped => exact shaped.1
    case unlicensed => exact shaped
    all_goals cases degraded
  obtain ⟨r, -, license⟩ := unattested
  rw [license]
  rfl

/-- Where every licensed node shows what is kept, and what is kept is labelled as it was found, the
modules to be reviewed are those that are degraded anywhere. -/
theorem review_eq {c : Cache} {t : Tree}
    (shaped : ∀ n ∈ Node.nodes t.root.dependencies, n.Shaped)
    (shown : ∀ n ∈ Node.nodes t.root.dependencies, n.license.isSome → c.Shows n)
    (tells : ∀ id e, c.find? id = some e → License.Tells e.node.license e.node.resolution)
    (header : String) (date : Report.Date) :
    (Report.document header date t).review.map (·.id) = t.degraded.map String.toList := by
  rw [t.review_id, degraded, ← modules_ids, List.filter_map]
  congr 2
  refine List.filter_congr fun m mem => ?_
  rw [Bool.eq_iff_iff, Function.comp_apply, any_degraded, decide_eq_true_eq]
  have inside := mem_nodes_of_mem_modules mem
  constructor
  · intro unknown
    obtain ⟨l, license, name⟩ := Option.map_eq_some_iff.mp unknown
    obtain ⟨e, kept, same, resolution, -⟩ := shown m inside (by rw [license]; rfl)
    refine ⟨m, inside, rfl, ?_⟩
    rw [← resolution]
    exact (tells _ e kept l (same.trans license)).mp name
  · rintro ⟨n, mem', same, degraded⟩
    have licensed := licensed_of_degraded (shaped n mem') degraded
    obtain ⟨m', mem'', licensed', same'⟩ := (t.licensed_modules m.id).mpr ⟨n, mem', licensed, same⟩
    have once : m' = m := List.inj_on_of_nodup_map t.modules_nodup mem'' mem same'
    subst once
    obtain ⟨e, kept, license, resolution, -⟩ := shown n mem' licensed
    obtain ⟨e', kept', license', -⟩ := shown m' inside licensed'
    rw [same, kept'] at kept
    cases kept
    obtain ⟨l, hl⟩ := Option.isSome_iff_exists.mp licensed'
    rw [Node.licenseName, hl]
    refine congrArg some ((tells _ e kept' l (license'.trans hl)).mpr ?_)
    rw [resolution]
    exact degraded

end Tree

namespace Builder

variable {b : Builder σ} {root : PlacedManifest} {depth : Int} {world : σ} {t : Tree}

/-- Whatever a builder keeps that started from nothing, it searched for, and keeps as it was found. -/
theorem searched_of_kept {id : ModuleId} {e : Cache.Entry}
    (kept : (b.build root depth (.fresh world)).2.cache.find? id = some e) :
    ∃ x, b.Meets root depth (.fresh world) x ∧ x.Searches ∧ x.requirement.id = id ∧
      x.Shows b e.node.license e.node.resolution := by
  obtain ⟨-, refused⟩ | ⟨n, o, u, rfl, run, result⟩ := b.build_cases root depth (.fresh world)
  · rw [refused] at kept
    cases kept
  · rw [result, closed_cache] at kept
    rw [← Trail.ids_nil] at run
    let Origin := fun id license resolution => ∃ x, b.Meets root n (.fresh world) x ∧ x.Searches ∧
      x.requirement.id = id ∧ x.Shows b license resolution
    have origins : ∀ id e, u.cache.find? id = some e →
        Origin id e.node.license e.node.resolution :=
      run.stems (fun x meets searches _ _ shows => ⟨x, ⟨n, rfl, meets⟩, searches, rfl, shows⟩) nofun
    exact origins id e kept

/-- Whatever a build that succeeds searched for is in its tree, as it was found. -/
theorem Meets.mem_nodes (built : (b.build root depth s).1 = .ok t) {x : Encounter σ}
    (meets : b.Meets root depth s x) :
    ∃ node ∈ Node.nodes t.root.dependencies, node.id = x.requirement.id ∧
      x.Shows b node.license node.resolution := by
  obtain ⟨n, rfl, meets⟩ := meets
  obtain ⟨o, u, run, result⟩ := b.expands_build root n s
  rw [result] at built
  cases o with
  | error f => cases built
  | ok ns =>
      cases built
      obtain ⟨node, v, visited, mem⟩ := Build.Meets.mem_nodes meets run
      obtain ⟨shows, same⟩ := Build.shows_of_visit visited
      exact ⟨node, mem, same, shows⟩

/-- A report on what a builder makes from nothing asks to review the modules that are skipped or
unlicensed in the tree, each once; they are those that a search of the build left wanting, and after a
strict build there are none. -/
theorem review_of_build (discerns : b.Discerns)
    (built : (b.build root depth (.fresh world)).1 = .ok t) (header : String) (date : Report.Date) :
    (Report.document header date t).review.map (·.id) = t.degraded.map String.toList ∧
      t.degraded.Nodup ∧ (b.lenient = false → (Report.document header date t).review = []) ∧
      ∀ id, id ∈ t.degraded ↔ ∃ x, b.Meets root depth (.fresh world) x ∧ x.Searches ∧
        x.requirement.id = id ∧ Content.Wanting (x.found b) := by
  obtain ⟨formed, shown⟩ := shows_of_kept (s := .fresh world) (Build.consistent b).empty built
  have tells : ∀ id e, (b.build root depth (.fresh world)).2.cache.find? id = some e →
      License.Tells e.node.license e.node.resolution := by
    intro id e kept
    obtain ⟨x, -, searches, -, shows⟩ := searched_of_kept kept
    exact (Build.shows_of_searches discerns searches shows).2
  have review := Tree.review_eq (fun n mem => (formed n mem).1) shown tells header date
  refine ⟨review, t.degraded_nodup, fun strict => ?_, fun id => ?_⟩
  · have none : t.degraded = [] := by
      refine List.eq_nil_iff_forall_not_mem.mpr fun id mem => ?_
      obtain ⟨n, mem, -, degraded⟩ := Tree.mem_degraded.mp mem
      have settled := (formed n mem).2 strict
      cases resolution : n.resolution <;>
        simp [resolution, Resolution.isDegraded] at settled degraded
    rw [none, List.map_nil] at review
    exact List.map_eq_nil_iff.mp review
  · rw [Tree.mem_degraded]
    constructor
    · rintro ⟨n, mem, rfl, degraded⟩
      have licensed := Tree.licensed_of_degraded (formed n mem).1 degraded
      obtain ⟨e, kept, -, resolution, -⟩ := shown n mem licensed
      obtain ⟨x, meets, searches, same, shows⟩ := searched_of_kept kept
      rw [resolution] at shows
      exact ⟨x, meets, searches, same,
        (Build.shows_of_searches discerns searches shows).1.mp degraded⟩
    · rintro ⟨x, meets, searches, rfl, wants⟩
      obtain ⟨n, mem, same, shows⟩ := meets.mem_nodes built
      exact ⟨n, mem, same, (Build.shows_of_searches discerns searches shows).1.mpr wants⟩

/-- Modules that the walk comes to unexpanded first are to be reviewed all the same. -/
theorem review_of_build_ragged :
    ∃ t, (ragged.build (Chart.manifest "m" ["a", "b", "c"]) 1 (.fresh ())).1 = .ok t ∧
      t.walk.map (·.2.resolution) =
        [.resolved, .unexpanded, .unexpanded, .unlicensed, .skipped] ∧
      (Report.document "" ⟨2024, 1, 31⟩ t).review.map (·.id) =
        ["b@v1".toList, "c@v1".toList] := by
  have shown : (ragged.build (Chart.manifest "m" ["a", "b", "c"]) 1 (.fresh ())).1.toOption.map
      (fun t => (t.walk.map (·.2.resolution), t.degraded)) =
      some ([.resolved, .unexpanded, .unexpanded, .unlicensed, .skipped], ["b@v1", "c@v1"]) := by
    decide +kernel
  obtain ⟨t, built, shown⟩ := exists_ok_of_map shown
  obtain ⟨walk, degraded⟩ := Prod.mk.inj shown
  have discerns : ragged.Discerns := by
    intro data scene unknown
    have same : "MIT" = License.unknownName := Except.ok.inj unknown
    exact absurd same (by decide)
  obtain ⟨review, -⟩ := review_of_build discerns built "" ⟨2024, 1, 31⟩
  rw [degraded] at review
  exact ⟨t, built, walk, review⟩

end Builder

end Attribution

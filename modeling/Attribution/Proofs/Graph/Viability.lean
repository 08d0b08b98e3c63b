import Attribution.Proofs.Graph.Complete
import Attribution.Proofs.Graph.Cycle
import Attribution.Proofs.Graph.Review

/-!
When a build succeeds. From nothing it does when every module within the depth is accepted, and, if the
builder is strict, no route reveals a cycle. What was kept before only takes away occasions to fail:
then the build succeeds after any history.
-/

namespace Attribution

variable {σ : Type}

namespace Builder

variable (b : Builder σ) (answer : ModuleId → Except Failure Content)
  (label : Bytes → Except Failure String) (root : PlacedManifest) (depth : Nat)

/-- A module that a build goes on with: a text is found and labelled, or a lenient build does without.
-/
def Accepts (id : ModuleId) : Prop :=
  (∃ content byte bytes name, answer id = .ok content ∧ content.license = some (byte :: bytes) ∧
    label (byte :: bytes) = .ok name) ∨
  b.lenient = true ∧ Content.Wanting (answer id)

/-- A route that is no longer than the depth leads there. -/
def Near (r : Requirement) : Prop :=
  ∃ route, route.length ≤ depth ∧ Route.follow (b.needs answer) root.requirements route = some r

/-- Nothing within the depth is in the way of a build. -/
structure Viable : Prop where
  accepts : ∀ r, b.Near answer root depth r → b.Accepts answer label r.id
  quiet : b.lenient = false → ¬ ∃ route, route.length ≤ depth ∧
    Route.Reveals (b.needs answer) root.requirements route

end Builder

namespace Verdict

variable {lenient : Bool} {v : ModuleVersion} {found : Except Failure Content} {content : Content}

theorem not_wanting_of_fail {f : Failure} (made : Verdict.of lenient v found = .fail f) :
    (∀ content, found ≠ .ok content) ∧ ¬ (lenient = true ∧ Content.Wanting found) := by
  match found with
  | .ok content => cases made
  | .error (.fault g) => exact ⟨nofun, fun ⟨_, wants⟩ => wants⟩
  | .error (.problem p) =>
      refine ⟨nofun, fun ⟨mode, wants⟩ => ?_⟩
      subst mode
      simp only [Verdict.of] at made
      split at made
      · cases made
      next fetched =>
        obtain fetch | ⟨manifest, kind⟩ := wants
        · exact fetched fetch
        · simp only [kind] at made
          cases made

end Verdict

namespace Build

variable {b : Builder σ} {answer : ModuleId → Except Failure Content}
  {label : Bytes → Except Failure String} {parent : PlacedManifest} {r : Requirement}
  {path : List ModuleId} {s t u : BuildState σ} {n : Nat} {rs : List Requirement} {trail : Trail}
  {x : Encounter σ}

/-- A license comes out if there is a text with a label, or a lenient build does without. -/
theorem licensed_iff (labels : b.Labels label) {data : Option Bytes} {o : Except Failure License}
    (run : (licenseFor b r data).run.run s = (o, t)) :
    (∃ l, o = .ok l) ↔
      (∃ byte bytes name, data = some (byte :: bytes) ∧ label (byte :: bytes) = .ok name) ∨
      b.lenient = true ∧ (data = none ∨ data = some []) := by
  cases licenses_of_run run with
  | labelled given named =>
      rw [labels] at named
      exact ⟨fun _ => .inl ⟨_, _, _, given, named⟩, fun _ => ⟨_, rfl⟩⟩
  | refused given failed =>
      rw [labels] at failed
      simp [given, failed]
  | placeholder blank mode =>
      exact ⟨fun _ => .inr ⟨mode, blank_of_ne blank⟩, fun _ => ⟨_, rfl⟩⟩
  | missing blank strict =>
      obtain rfl | rfl := blank_of_ne blank <;> simp [strict]

theorem accepts_of_settle {content : Content}
    (made : Verdict.of b.lenient r.version (answer r.id) = .settle content) :
    b.Accepts answer label r.id ↔
      (∃ byte bytes name, content.license = some (byte :: bytes) ∧
        label (byte :: bytes) = .ok name) ∨
      b.lenient = true ∧ (content.license = none ∨ content.license = some []) := by
  rw [Builder.Accepts, Verdict.wanting_of_settle made]
  obtain found | ⟨-, missing, p, manifest, found, kind⟩ := Verdict.settle_cases made
  · simp [found]
  · simp [found, missing]

theorem Settles.accepts_iff (labels : b.Labels label) {opening : Opening}
    (settled : Settles b r n s (.of b.lenient r.version (answer r.id)) opening t) :
    opening.shown.isSome ↔ b.Accepts answer label r.id := by
  generalize made : Verdict.of b.lenient r.version (answer r.id) = verdict at settled
  cases settled with
  | failed =>
      obtain ⟨failed, settles⟩ := Verdict.not_wanting_of_fail made
      refine ⟨nofun, fun accepts => ?_⟩
      obtain ⟨content, -, -, -, found, -⟩ | wants := accepts
      · exact absurd found (failed content)
      · exact absurd wants settles
  | skipped =>
      refine ⟨fun _ => .inr ?_, fun _ => rfl⟩
      exact ⟨Verdict.lenient_of_skip made, Verdict.wanting_of_skip made⟩
  | unlicensed run =>
      rw [accepts_of_settle made, ← licensed_iff labels run]
      exact ⟨nofun, nofun⟩
  | leaf run | found run =>
      rw [accepts_of_settle made, ← licensed_iff labels run]
      exact ⟨fun _ => ⟨_, rfl⟩, fun _ => rfl⟩

section
variable (answers : b.Answers fun r => answer r.id) (labels : b.Labels label)
include answers labels

/-- A build fails at a module that a strict one meets again, or that is not accepted. -/
theorem Opens.of_error {f : Failure} (opens : Opens b parent r path s n (.done (.error f)) t) :
    0 < n ∧ (b.lenient = false ∧ r.id ∈ path ∨ ¬ b.Accepts answer label r.id) := by
  cases opens with
  | cycleError again strict => exact ⟨Nat.zero_lt_succ _, .inl ⟨strict, again⟩⟩
  | search new miss settled =>
      rw [b.verdict_eq answers] at settled
      refine ⟨Nat.zero_lt_succ _, .inr fun accepts => ?_⟩
      exact nomatch (settled.accepts_iff labels).mpr accepts

theorem accepted : Upholds b (fun c => ∀ id e, c.find? id = some e → b.Accepts answer label id)
    fun _ _ _ => True where
  empty := nofun
  grow _ good := good
  done {parent r path s t n node} opens kept := by
    refine ⟨fun id e found => ?_, trivial⟩
    obtain old | ⟨rfl, -, -⟩ := opens.find?_done found
    · exact kept id e old
    · cases opens with
      | bare | cycle | shared => exact kept _ e found
      | search new miss settled =>
          rw [b.verdict_eq answers] at settled
          exact (settled.accepts_iff labels).mp rfl
  finish {parent r path s t u n d ns} opens below before kept _ := by
    refine ⟨fun id e found => ?_, trivial⟩
    obtain old | ⟨rfl, -⟩ := find?_finish_cases found
    · exact kept id e old
    · cases opens with
      | deepen new hit => exact before _ _ hit
      | search new miss settled =>
          rw [b.verdict_eq answers] at settled
          exact (settled.accepts_iff labels).mp rfl

end

section
variable (answers : b.Answers fun r => answer r.id)
include answers

/-- A route leads to every encounter, and is as long as levels are used up. -/
theorem Meets.route (meets : Meets b n trail parent rs s x)
    (sourced : s.cache.Sourced (b.known answer)) :
    ∃ route, Route.follow (b.needs answer) rs route = some x.requirement ∧
      route.length + x.levels = n + 1 := by
  induction meets with
  | here => exact ⟨[0], rfl, Nat.add_comm 1 _⟩
  | @later n trail parent r rest s t node x visited meets ih =>
      have head := expands_visit b n trail.ids parent r s
      rw [visited] at head
      obtain ⟨route, leads, long⟩ := ih (head.sourced answers sourced)
      cases route with
      | nil => cases leads
      | cons i route => exact ⟨(i + 1) :: route, leads, long⟩
  | @inside n trail parent r rest s t d x opens meets ih =>
      obtain ⟨route, leads, long⟩ := ih (opens.sourced answers sourced)
      rw [← opens.needs_of_expand answers sourced] at leads
      cases route with
      | nil => cases leads
      | cons i route =>
          refine ⟨0 :: i :: route, leads, ?_⟩
          rw [List.length_cons]
          omega

theorem sourced : Upholds b (fun c => c.Sourced (b.known answer)) fun _ _ _ => True where
  empty := nofun
  grow _ good := good
  done opens sourced := ⟨opens.sourced answers sourced, trivial⟩
  finish opens _ before kept _ := ⟨opens.sourced_finish answers before kept _, trivial⟩

variable (strict : b.lenient = false)
include strict

omit answers in
/-- To a strict build it makes no difference which modules are being expanded. -/
theorem Closed.of_strict {c : Cache} {other : List ModuleId} {depth depth' : Nat}
    (closed : Closed b answer path depth c) : Closed b answer other depth' c :=
  fun p e kept q mem => .inl ((closed p e kept q mem).covers_of_strict strict)

/-- However its builds end, a strict builder has expanded whatever the kept modules require. -/
theorem closed : Upholds b (fun c => c.Sourced (b.known answer) ∧ Closed b answer [] 0 c)
    fun c n node => c.Covers (b.needs answer) n node.requirement where
  empty := ⟨nofun, nofun⟩
  grow le covers := covers.mono le
  done {parent r path s t n node} opens kept := by
    obtain ⟨closed, due⟩ := opens.due_of_done answers rfl kept.1 (kept.2.of_strict strict)
    rw [opens.requirement_eq]
    exact ⟨⟨opens.sourced answers kept.1, closed.of_strict strict⟩, due.covers_of_strict strict⟩
  finish {parent r path s t u n d ns} opens below before kept good := by
    have children : ∀ q ∈ d.manifest.requirements,
        Due b answer (path ++ [r.id]) (n + 1 + path.length) u.cache n q := by
      rw [← below.requirements_eq rfl]
      exact List.forall_mem_map.mpr fun m mem => .inl (good m mem)
    obtain ⟨closed, due⟩ :=
      opens.due_of_finish answers below rfl before.1 (kept.2.of_strict strict) children
    exact ⟨⟨opens.sourced_finish answers before.1 kept.1 ns, closed.of_strict strict⟩,
      due.covers_of_strict strict⟩

end

/-- What is kept only hides cycles. -/
theorem Exposes.anti {next : Requirement → List Requirement} {c c' : Cache} {route : Route}
    (exposes : Exposes next path rs n c' route) (le : c.LE c') :
    Exposes next path rs n c route := by
  refine ⟨exposes.short, exposes.again, fun earlier q prior proper hq => ?_⟩
  obtain ⟨new, few, leading⟩ := exposes.first earlier q prior proper hq
  exact ⟨new, fun covers => few (covers.mono le), leading⟩

end Build

namespace Builder

variable {b : Builder σ} {answer : ModuleId → Except Failure Content}
  {label : Bytes → Except Failure String} {root : PlacedManifest} {depth : Nat} {world : σ}
  {roots : PlacedManifest → Prop} {s : BuildState σ}
  (answers : b.Answers fun r => answer r.id)
include answers

/-- What a build from nothing keeps is what routes within the depth lead to. -/
theorem kept_iff_near {t : Tree} (built : (b.build root depth (.fresh world)).1 = .ok t)
    (id : ModuleId) : (b.build root depth (.fresh world)).2.cache.find? id ≠ none ↔
      ∃ r, b.Near answer root depth r ∧ r.id = id := by
  obtain ⟨o, u, run, result⟩ := b.expands_build root depth (.fresh world)
  rw [result] at built ⊢
  cases o with
  | error f => cases built
  | ok ns =>
      rw [closed_cache, run.kept_iff answers rfl id]
      constructor
      · rintro ⟨route, r, short, leads, same⟩
        exact ⟨r, ⟨route, short, leads⟩, same⟩
      · rintro ⟨r, ⟨route, short, leads⟩, same⟩
        exact ⟨route, r, short, leads, same⟩

variable (labels : b.Labels label)
include labels

/-- A build that finds nothing in its way succeeds, whatever happened before. -/
theorem exists_ok_of_viable (viable : b.Viable answer label root depth)
    (reachable : b.Reachable roots s) : ∃ t, (b.build root depth s).1 = .ok t := by
  cases outcome : (b.build root depth s).1 with
  | ok t => exact ⟨t, rfl⟩
  | error f =>
      exfalso
      obtain ⟨neg, -⟩ | ⟨x, t, ⟨n, same, meets⟩, stops⟩ := exists_meets_of_error outcome
      · omega
      · obtain rfl := Int.ofNat.inj same
        obtain ⟨positive, ⟨strict, again⟩ | refused⟩ := stops.of_error answers labels
        · -- The cycle would be met from nothing, where less is kept.
          obtain ⟨sourced, closed⟩ := upheld_of_reachable (Build.closed answers strict) reachable
          obtain ⟨route, exposes⟩ := meets.exposes answers strict ⟨positive, again⟩ rfl sourced
            (closed.of_strict strict)
          have fresh := exposes.anti (c := .empty) nofun
          exact viable.quiet strict ⟨route, (Build.exposes_iff fun _ => rfl).mp fresh⟩
        · have sourced := upheld_of_reachable (Build.sourced answers) reachable
          obtain ⟨route, leads, long⟩ := meets.route answers sourced
          exact refused (viable.accepts _ ⟨route, by omega, leads⟩)

theorem viable_of_ok {t : Tree} (built : (b.build root depth (.fresh world)).1 = .ok t) :
    b.Viable answer label root depth := by
  refine ⟨fun r near => ?_, fun strict ⟨route, revealed⟩ => ?_⟩
  · obtain ⟨e, found⟩ := Option.ne_none_iff_exists'.mp
      ((kept_iff_near answers built r.id).mpr ⟨r, near, rfl⟩)
    have upholds := Build.accepted answers labels
    have before : ∀ id e, (BuildState.fresh world).cache.find? id = some e →
        b.Accepts answer label id := upholds.empty
    exact (upheld_build upholds before root depth).1 _ e found
  · obtain ⟨o, u, run, result⟩ := b.expands_build root depth (.fresh world)
    rw [result] at built
    cases o with
    | error f => cases built
    | ok ns =>
        exact run.not_exposes answers strict rfl nofun
          ((Build.exposes_iff fun _ => rfl).mpr revealed)

end Builder

end Attribution

import Attribution.Proofs.Graph.Traversal

/-!
The graph of requirements and the routes through it. A route is a list of positions: the first one
is a position among the requirements of a root, each later one a position among the requirements of
the module reached so far. So routes stand for the chains of requirements that start at a root, and
their lexicographic order is the order in which a traversal takes them. Which requirements a module
has is a matter of what its resolver finds; nothing here depends on how a builder goes about it.
-/

namespace Attribution

variable {σ : Type}

namespace Content

/-- The manifest that is known of a module, by the outcome of the search for its content. Nothing is
known of a module that could not be fetched. A missing license may come with a manifest, by which
only a lenient build goes. -/
def known (lenient : Bool) : Except Failure Content → Option PlacedManifest
  | .ok content => content.manifest
  | .error (.problem p) =>
    match lenient, p.kind with
    | true, .licenseNotFound manifest => manifest
    | _, _ => none
  | .error (.fault _) => none

def requirements (lenient : Bool) (found : Except Failure Content) : List Requirement :=
  match known lenient found with
  | some m => m.requirements
  | none => []

theorem requirements_of_known {lenient : Bool} {found : Except Failure Content}
    {m : PlacedManifest} (h : known lenient found = some m) :
    requirements lenient found = m.requirements := by
  simp [requirements, h]

theorem requirements_of_unknown {lenient : Bool} {found : Except Failure Content}
    (h : known lenient found = none) : requirements lenient found = [] := by
  simp [requirements, h]

end Content

theorem Verdict.manifest?_of (lenient : Bool) (v : ModuleVersion) (found : Except Failure Content) :
    (Verdict.of lenient v found).manifest? = Content.known lenient found := by
  rcases found with (p | f) | content
  · rcases p with ⟨kind, message, module, recorded⟩
    cases lenient <;> cases kind <;> rfl
  · rfl
  · rfl

/-- The outcome of the resolver is a function of the requirement. -/
def Builder.Answers (b : Builder σ) (found : Requirement → Except Failure Content) : Prop :=
  ∀ parent r scene, ((b.resolver parent r).run.run scene).1 = found r

/-- The outcome of the classifier is a function of the text. -/
def Builder.Labels (b : Builder σ) (name : Bytes → Except Failure String) : Prop :=
  ∀ data scene, ((b.classifier data).run.run scene).1 = name data

abbrev Route := List Nat

namespace Route

variable {next : Requirement → List Requirement} {rs : List Requirement} {r q : Requirement}
  {i : Nat} {route rest : Route}

/-- The requirement that a route leads to from another one. -/
def below (next : Requirement → List Requirement) : Requirement → Route → Option Requirement
  | r, [] => some r
  | r, i :: route => (next r)[i]?.bind (below next · route)

/-- The requirement that a route leads to from the requirements of a root. -/
def follow (next : Requirement → List Requirement) (rs : List Requirement) :
    Route → Option Requirement
  | [] => none
  | i :: route => rs[i]?.bind (below next · route)

/-- The order in which a traversal takes routes. -/
abbrev Before : Route → Route → Prop := List.Lex (· < ·)

/-- The last module of a route was met on it before. -/
def Closes (next : Requirement → List Requirement) (rs : List Requirement) (route : Route) : Prop :=
  ∃ earlier q r, earlier <+: route ∧ earlier ≠ route ∧ follow next rs earlier = some q ∧
    follow next rs route = some r ∧ q.id = r.id

/-- No route that is taken before and is no longer leads to the same module. -/
def Leading (next : Requirement → List Requirement) (rs : List Requirement) (route : Route) :
    Prop :=
  ∀ other q r, Before other route → other.length ≤ route.length → follow next rs other = some q →
    follow next rs route = some r → q.id ≠ r.id

@[simp] theorem follow_nil : follow next rs [] = none := rfl

@[simp] theorem follow_zero :
    follow next (r :: rs) (0 :: route) = below next r route := rfl

@[simp] theorem follow_succ :
    follow next (r :: rs) ((i + 1) :: route) = follow next rs (i :: route) := rfl

theorem below_append (r : Requirement) (route rest : Route) :
    below next r (route ++ rest) = (below next r route).bind (below next · rest) := by
  induction route generalizing r with
  | nil => rfl
  | cons i route ih =>
      simp only [List.cons_append, below, Option.bind_assoc]
      congr 1
      funext q
      exact ih q

theorem follow_append (h : follow next rs route = some q) :
    follow next rs (route ++ rest) = below next q rest := by
  cases route with
  | nil => simp at h
  | cons i route =>
      simp only [follow, List.cons_append] at h ⊢
      obtain ⟨r, hr, hq⟩ := Option.bind_eq_some_iff.mp h
      simp [hr, below_append, hq]

theorem follow_of_mem (next : Requirement → List Requirement) (h : r ∈ rs) :
    ∃ i, follow next rs [i] = some r := by
  obtain ⟨i, hi, rfl⟩ := List.mem_iff_getElem.mp h
  exact ⟨i, by simp [follow, below, hi]⟩

theorem mem_of_below (h : below next r (i :: route) = some q) : next r ≠ [] := by
  intro none
  simp [below, none] at h

theorem mem_iff_below : q ∈ next r ↔ ∃ i, below next r [i] = some q := by
  simp [below, List.mem_iff_getElem?]

theorem below_induction {P : Requirement → Prop} (step : ∀ r q, P r → q ∈ next r → P q)
    (here : P r) (h : below next r route = some q) : P q := by
  induction route generalizing r with
  | nil => cases h; exact here
  | cons i route ih =>
      obtain ⟨p, hp, hq⟩ := Option.bind_eq_some_iff.mp h
      exact ih (step r p here (List.mem_of_getElem? hp)) hq

/-- With a rank that falls from a module to what it requires, no route meets a module twice. -/
theorem not_closes_of_rank {P : Requirement → Prop} {rank : ModuleId → Nat}
    (first : ∀ r ∈ rs, P r) (step : ∀ r q, P r → q ∈ next r → P q ∧ rank q.id < rank r.id) :
    ¬ Closes next rs route := by
  rintro ⟨earlier, q, r, ⟨rest, rfl⟩, short, hq, hr, same⟩
  rw [follow_append hq] at hr
  have reached : P q := by
    cases earlier with
    | nil => simp at hq
    | cons i earlier =>
        obtain ⟨p, hp, hq⟩ := Option.bind_eq_some_iff.mp hq
        exact below_induction (fun r q hr h => (step r q hr h).1)
          (first p (List.mem_of_getElem? hp)) hq
  cases rest with
  | nil => simp at short
  | cons i rest =>
      obtain ⟨p, hp, hr⟩ := Option.bind_eq_some_iff.mp hr
      obtain ⟨hp', lower⟩ := step q p reached (List.mem_of_getElem? hp)
      obtain ⟨-, below⟩ := below_induction (P := fun r => P r ∧ rank r.id < rank q.id)
        (fun r q' h h' => ⟨(step r q' h.1 h').1, Nat.lt_trans (step r q' h.1 h').2 h.2⟩)
        ⟨hp', lower⟩ hr
      rw [same] at below
      exact Nat.lt_irrefl _ below

end Route

def Met (roots : PlacedManifest → Prop) (next : Requirement → List Requirement)
    (r : Requirement) : Prop :=
  ∃ root route, roots root ∧ Route.follow next root.requirements route = some r

section
variable {roots : PlacedManifest → Prop} {next : Requirement → List Requirement}
  {root : PlacedManifest} {r q : Requirement}

theorem Met.first (given : roots root) (h : r ∈ root.requirements) : Met roots next r := by
  obtain ⟨i, hi⟩ := Route.follow_of_mem next h
  exact ⟨root, [i], given, hi⟩

theorem Met.step (met : Met roots next r) (h : q ∈ next r) : Met roots next q := by
  obtain ⟨root, route, given, hr⟩ := met
  obtain ⟨i, hi⟩ := Route.mem_iff_below.mp h
  exact ⟨root, route ++ [i], given, by rw [Route.follow_append hr, hi]⟩

/-- What holds of the requirements of roots and passes to what modules require holds wherever a
route leads. -/
theorem Met.induction {P : Requirement → Prop}
    (first : ∀ root r, roots root → r ∈ root.requirements → P r)
    (step : ∀ r q, P r → q ∈ next r → P q) (met : Met roots next r) : P r := by
  obtain ⟨root, route, given, h⟩ := met
  cases route with
  | nil => simp at h
  | cons i route =>
      obtain ⟨p, hp, hq⟩ := Option.bind_eq_some_iff.mp h
      exact Route.below_induction step (first root p given (List.mem_of_getElem? hp)) hq

end

/-- An outcome of which something can be seen is no failure. -/
theorem exists_ok_of_map {ε α β : Type} {outcome : Except ε α} {f : α → β} {seen : β}
    (h : outcome.toOption.map f = some seen) : ∃ a, outcome = .ok a ∧ f a = seen := by
  cases outcome with
  | error e => cases h
  | ok a => exact ⟨a, rfl, Option.some.inj h⟩

/-- A graph in which every module is of one version and under one license: the paths that the module
with an identity requires. -/
abbrev Chart := ModuleId → List String

namespace Chart

def requirement (path : String) : Requirement := ⟨⟨path, "v1"⟩, none⟩

def manifest (path : String) (paths : List String) : PlacedManifest :=
  ⟨⟨⟨path, ""⟩, paths.map fun p => ⟨p, "v1"⟩, []⟩, none⟩

def content (chart : Chart) (id : ModuleId) : Except Failure Content :=
  .ok ⟨some (manifest id (chart id)), some [77, 73, 84]⟩

/-- A builder that finds all modules in a chart. -/
def builder (chart : Chart) (lenient : Bool) : Builder Unit where
  resolver _ r := ExceptT.mk (pure (chart.content r.id))
  classifier _ := pure "MIT"
  lenient := lenient

theorem builder_answers (chart : Chart) (lenient : Bool) :
    (chart.builder lenient).Answers fun r => chart.content r.id := fun _ _ _ => rfl

theorem builder_labels (chart : Chart) (lenient : Bool) :
    (chart.builder lenient).Labels fun _ => .ok "MIT" := fun _ _ => rfl

end Chart

end Attribution

import Attribution.Proofs.Graph.Coverage

/-!
Where a run meets a module for the first time. A run reaches the end of a route if nothing it met
before stops it on the way: no module before the last one is on the path, or expanded far enough by
what was kept or by a route that is taken before. From there one step of the run leads to the next:
into the module at the head, or past it.
-/

namespace Attribution

variable {σ : Type}

namespace Route

variable {next : Requirement → List Requirement} {r q : Requirement} {rs rest : List Requirement}
  {i j : Nat} {other route : Route}

theorem not_before_head : ¬ Before (i :: other) [0] := by
  simp [Before, List.cons_lex_cons_iff]

theorem before_after :
    Before ((j + 1) :: other) ((i + 1) :: route) ↔ Before (j :: other) (i :: route) := by
  simp [Before, List.cons_lex_cons_iff]

theorem prefix_after : (j + 1) :: other <+: (i + 1) :: route ↔ j :: other <+: i :: route := by
  simp [List.cons_prefix_cons]

theorem leading_nil : Leading next rs [] := fun _ _ _ _ _ _ h => nomatch h

theorem leading_head : Leading next (r :: rest) [0] := by
  intro other q p before _ hq _
  cases other with
  | nil => cases hq
  | cons j other => exact absurd before not_before_head

theorem Leading.below (leading : Leading next (r :: rest) (0 :: i :: route)) :
    Leading next (next r) (i :: route) := by
  intro other q p before short hq hp
  cases other with
  | nil => cases hq
  | cons j other => exact leading _ q p (.cons before) (Nat.succ_le_succ short) hq hp

theorem Leading.after (leading : Leading next (r :: rest) ((i + 1) :: route)) :
    Leading next rest (i :: route) := by
  intro other q p before short hq hp
  cases other with
  | nil => cases hq
  | cons j other => exact leading ((j + 1) :: other) q p (before_after.mpr before) short hq hp

theorem Leading.ne_head (leading : Leading next (r :: rest) (0 :: i :: route))
    (h : follow next (next r) (i :: route) = some q) : q.id ≠ r.id :=
  Ne.symm (leading [0] r q (.cons .nil) (by simp) rfl h)

theorem Leading.above (leading : Leading next (next r) (i :: route))
    (other : ∀ q, follow next (next r) (i :: route) = some q → q.id ≠ r.id) :
    Leading next (r :: rest) (0 :: i :: route) := by
  intro earlier q p before short hq hp
  cases before with
  | nil => cases hq
  | rel lower => exact absurd lower (Nat.not_lt_zero _)
  | @cons _ earlier _ before =>
      cases earlier with
      | nil =>
          cases hq
          exact Ne.symm (other p hp)
      | cons j earlier => exact leading _ q p before (Nat.le_of_succ_le_succ short) hq hp

theorem Leading.before (leading : Leading next rest (i :: route))
    (head : ∀ earlier q p, earlier.length ≤ route.length → follow next [r] (0 :: earlier) = some q →
      follow next rest (i :: route) = some p → q.id ≠ p.id) :
    Leading next (r :: rest) ((i + 1) :: route) := by
  intro earlier q p before short hq hp
  match earlier with
  | [] => cases hq
  | 0 :: earlier => exact head earlier q p (Nat.le_of_succ_le_succ short) hq hp
  | (j + 1) :: earlier => exact leading (j :: earlier) q p (before_after.mp before) short hq hp

theorem next_ne_nil {earlier : Route} {p : Requirement} (prior : earlier <+: route)
    (proper : earlier ≠ route) (hq : follow next rs earlier = some q)
    (hp : follow next rs route = some p) : next q ≠ [] := by
  obtain ⟨onward, rfl⟩ := prior
  rw [follow_append hq] at hp
  cases onward with
  | nil => simp at proper
  | cons i onward => exact mem_of_below hp

end Route

namespace Build

variable {next : Requirement → List Requirement} {path : List ModuleId} {r q : Requirement}
  {rs rest : List Requirement} {n i : Nat} {c c' : Cache} {route : Route}

theorem prior_cons {earlier : Route} {q : Requirement} (prior : earlier <+: i :: route)
    (proper : earlier ≠ i :: route) (hq : Route.follow next rs earlier = some q) :
    ∃ inner, earlier = i :: inner ∧ inner <+: route ∧ inner ≠ route := by
  obtain rfl | ⟨inner, rfl, within⟩ := List.prefix_cons_iff.mp prior
  · cases hq
  · exact ⟨inner, rfl, within, fun h => proper (h ▸ rfl)⟩

theorem cons_prior {inner : Route} (within : inner <+: route) (proper : inner ≠ route) :
    i :: inner <+: i :: route ∧ i :: inner ≠ i :: route :=
  ⟨List.prefix_cons_iff.mpr (.inr ⟨inner, rfl, within⟩), fun h => proper (List.cons.inj h).2⟩

/-- A run with so many levels left, on the given path, follows the route to its end: no module
before the last one is on the path, expanded far enough, or met by a route that is taken before. -/
def Reaches (next : Requirement → List Requirement) (path : List ModuleId) (rs : List Requirement)
    (n : Nat) (c : Cache) (route : Route) : Prop :=
  ∀ earlier q, earlier <+: route → earlier ≠ route → Route.follow next rs earlier = some q →
    q.id ∉ path ∧ ¬ c.Covers next (n + 1 - earlier.length) q ∧ Route.Leading next rs earlier

theorem reaches_singleton : Reaches next path rs n c [i] := by
  intro earlier q prior proper hq
  obtain ⟨inner, rfl, within, apart⟩ := prior_cons prior proper hq
  exact absurd (List.prefix_nil.mp within) apart

theorem Reaches.head (reaches : Reaches next path (r :: rest) n c (0 :: i :: route)) :
    r.id ∉ path ∧ ¬ c.Covers next n r := by
  obtain ⟨new, few, -⟩ := reaches [0] r (by simp) (by simp) rfl
  exact ⟨new, by simpa using few⟩

theorem Reaches.below (reaches : Reaches next path (r :: rest) (n + 1) c (0 :: i :: route)) :
    Reaches next (path ++ [r.id]) (next r) n c (i :: route) := by
  intro earlier p prior proper hp
  obtain ⟨inner, rfl, -⟩ := prior_cons prior proper hp
  obtain ⟨prior, proper⟩ := cons_prior (i := 0) prior proper
  obtain ⟨offPath, few, leading⟩ := reaches _ p prior proper hp
  refine ⟨by simp [offPath, leading.ne_head hp], ?_, leading.below⟩
  simpa [Int.add_sub_add_right] using few

theorem Reaches.above (reaches : Reaches next (path ++ [r.id]) (next r) n c (i :: route))
    (new : r.id ∉ path) (few : ¬ c.Covers next (n + 1 : Nat) r) :
    Reaches next path (r :: rest) (n + 1) c (0 :: i :: route) := by
  intro earlier p prior proper hp
  obtain ⟨inner, rfl, within, apart⟩ := prior_cons prior proper hp
  cases inner with
  | nil =>
      cases hp
      exact ⟨new, by simpa using few, Route.leading_head⟩
  | cons j inner =>
      obtain ⟨offPath, fewer, leading⟩ := reaches _ p within apart hp
      simp only [List.mem_append, List.mem_singleton, not_or] at offPath
      refine ⟨offPath.1, by simpa [Int.add_sub_add_right] using fewer, leading.above ?_⟩
      intro x hx
      obtain rfl := Option.some.inj (hp.symm.trans hx)
      exact offPath.2

/-- What starts further on is reached when the requirement at the head is done with. -/
theorem Reaches.after (reaches : Reaches next path (r :: rest) n c ((i + 1) :: route))
    (short : (i :: route).length ≤ n) (target : Route.follow next rest (i :: route) = some q)
    (traced : ∀ id e, c'.find? id = some e → Traced next [r] n c id e) :
    Reaches next path rest n c' (i :: route) := by
  intro earlier p prior proper hp
  have some := Route.next_ne_nil prior proper hp target
  have shorter := prior.length_le
  obtain ⟨inner, rfl, within, apart⟩ := prior_cons prior proper hp
  obtain ⟨prior, proper⟩ := cons_prior (i := i + 1) within apart
  obtain ⟨offPath, few, leading⟩ := reaches _ p prior proper hp
  refine ⟨offPath, fun covers => ?_, leading.after⟩
  simp only [List.length_cons] at few covers shorter short
  obtain ⟨e, he, far⟩ := covers.kept (by omega)
  have far := far.resolve_right some
  obtain ⟨old, hold, levels⟩ | ⟨other, x, hx, same, fits, levels⟩ := traced p.id e he
  · exact few (.inr ⟨old, hold, .inl (levels ▸ far)⟩)
  · match other, hx with
    | 0 :: other, hx =>
        exact leading (0 :: other) x p (.rel (Nat.zero_lt_succ i))
          (by simp only [List.length_cons] at levels ⊢; omega) hx hp same

/-- What is reached further on was in reach before the requirement at the head, if all routes from
there were expanded as far as they are long. -/
theorem Reaches.before (reaches : Reaches next path rest n c' (i :: route)) (le : c.LE c')
    (byId : ∀ q p, q.id = p.id → next q = next p)
    (covers : ∀ other q, Route.follow next [r] other = some q →
      c'.Covers next (n + 1 - other.length) q) :
    Reaches next path (r :: rest) n c ((i + 1) :: route) := by
  intro earlier p prior proper hp
  obtain ⟨inner, rfl, within, apart⟩ := prior_cons prior proper hp
  obtain ⟨prior, proper⟩ := cons_prior (i := i) within apart
  obtain ⟨offPath, few, leading⟩ := reaches _ p prior proper hp
  refine ⟨offPath, fun sooner => few (sooner.mono le), leading.before ?_⟩
  intro other x y fits hx hy same
  obtain rfl := Option.some.inj (hp.symm.trans hy)
  have there := (covers (0 :: other) x hx).anti
    (by simp only [List.length_cons]; omega :
      (n + 1 - (i :: inner).length : Int) ≤ n + 1 - (0 :: other).length)
  rw [Cache.Covers, same, byId x p same] at there
  exact few there

/-- From a fresh start a run reaches the end of a route whose modules it leads to first. -/
theorem reaches_iff (empty : ∀ id, c.find? id = none) (short : route.length ≤ n) :
    Reaches next [] rs n c route ↔
      ∀ earlier, earlier <+: route → earlier ≠ route → Route.Leading next rs earlier := by
  constructor
  · intro reaches earlier prior proper other x y before fits hx hy
    exact (reaches earlier y prior proper hy).2.2 other x y before fits hx hy
  · intro leading earlier p prior proper hp
    refine ⟨List.not_mem_nil, fun covers => ?_, leading earlier prior proper⟩
    have shorter : earlier.length < route.length :=
      Nat.lt_of_le_of_ne prior.length_le fun same => proper (prior.eq_of_length same)
    obtain ⟨e, he, -⟩ := covers.kept (by omega)
    rw [empty] at he
    cases he

end Build

end Attribution

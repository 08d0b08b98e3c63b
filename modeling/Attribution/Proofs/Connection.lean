import Attribution.Connection

/-!
No connection is lost. Whatever is done with a fetcher and its connections, one that is open is the one
that the fetcher holds. So it finds this one again when it needs one, and closes it when it closes.
-/

namespace Attribution.Connections

/-- Closes a connection, whoever does it. -/
def shut (c : Connections) (i : Nat) : Connections := { c with closed := c.closed.set i true }

/-- What can be done with a fetcher, or with its connections behind its back. -/
inductive Step where
  | acquire
  | cut
  | shut (i : Nat)
  | close
  | enter
  | leave
  deriving DecidableEq, Repr

def after (c : Connections) : Step → Connections
  | .acquire => c.acquire.2
  | .cut => c.cut
  | .shut i => c.shut i
  | .close => c.close
  | .enter => c.enter
  | .leave => c.leave

/-- The connections after steps, one after the other. -/
def run (c : Connections) (steps : List Step) : Connections := steps.foldl after c

variable {c : Connections} {i j : Nat}

theorem isOpen_iff : c.isOpen i ↔ c.closed[i]? = some false := beq_iff_eq

theorem isOpen_shut : (c.shut i).isOpen j ↔ c.isOpen j ∧ j ≠ i := by
  rw [isOpen_iff, isOpen_iff, shut, List.getElem?_set]
  by_cases same : i = j
  · simp [same]
  · simp [same, Ne.symm same]

/-- A new connection is open, and the others are as they were. -/
theorem isOpen_append {held : Option Nat} :
    isOpen ⟨c.closed ++ [false], held⟩ j ↔ c.isOpen j ∨ j = c.closed.length := by
  rw [isOpen_iff, isOpen_iff]
  rcases Nat.lt_trichotomy j c.closed.length with old | rfl | beyond
  · rw [List.getElem?_append_left old]
    exact (or_iff_left (Nat.ne_of_lt old)).symm
  · simp
  · rw [List.getElem?_eq_none (Nat.le_of_lt beyond), List.getElem?_eq_none (by simp; omega)]
    simp [Nat.ne_of_gt beyond]

/-- A connection is acquired that is held and open, or a new one when there is none such. -/
theorem acquire_cases (c : Connections) :
    (∃ i, c.held = some i ∧ c.isOpen i ∧ c.acquire = (i, c)) ∨
      (∀ i, c.held = some i → ¬ c.isOpen i) ∧
        c.acquire = (c.closed.length, ⟨c.closed ++ [false], some c.closed.length⟩) := by
  unfold acquire
  split
  next i held =>
    split
    next live => exact .inl ⟨i, held, live, rfl⟩
    next dead => exact .inr ⟨fun j hj => Option.some.inj (held.symm.trans hj) ▸ dead, rfl⟩
  next vacant => exact .inr ⟨fun i held => (nomatch vacant.symm.trans held), rfl⟩

/-- A cut closes the connection that is held, if there is one, and the fetcher goes on holding it. -/
theorem cut_cases (c : Connections) : c.cut = c ∨ ∃ i, c.held = some i ∧ c.cut = c.shut i := by
  unfold cut
  split
  next i held => exact .inr ⟨i, held, rfl⟩
  next => exact .inl rfl

/-- Closing closes the connection that is held and open, and changes nothing when there is none. -/
theorem close_cases (c : Connections) :
    (∃ i, c.held = some i ∧ c.isOpen i ∧ c.close = ⟨(c.shut i).closed, .none⟩) ∨
      (∀ i, c.held = some i → ¬ c.isOpen i) ∧ c.close = c := by
  unfold close
  split
  next i held =>
    split
    next live => exact .inl ⟨i, held, live, rfl⟩
    next dead => exact .inr ⟨fun j hj => Option.some.inj (held.symm.trans hj) ▸ dead, rfl⟩
  next vacant => exact .inr ⟨fun i held => (nomatch vacant.symm.trans held), rfl⟩

/-- An open connection is the one that the fetcher holds. -/
def Kept (c : Connections) : Prop := ∀ i, c.isOpen i → c.held = some i

theorem kept_none : Kept none := fun i live => by simp [none, isOpen] at live

namespace Kept

/-- At most one connection is open. -/
theorem unique (kept : c.Kept) (hi : c.isOpen i) (hj : c.isOpen j) : i = j :=
  Option.some.inj ((kept i hi).symm.trans (kept j hj))

theorem shut (kept : c.Kept) (i : Nat) : (c.shut i).Kept := fun j live =>
  kept j (isOpen_shut.mp live).1

/-- The open connection is the one acquired. -/
theorem acquire_eq (kept : c.Kept) (live : c.isOpen i) : c.acquire = (i, c) := by
  obtain ⟨j, held, -, same⟩ | ⟨dead, -⟩ := c.acquire_cases
  · rwa [Option.some.inj ((kept i live).symm.trans held)]
  · exact absurd live (dead i (kept i live))

theorem not_isOpen_close (kept : c.Kept) : ¬ c.close.isOpen j := by
  obtain ⟨i, held, -, shuts⟩ | ⟨dead, same⟩ := c.close_cases
  · rw [shuts]
    intro live
    obtain ⟨live, other⟩ := (isOpen_shut (c := c) (i := i)).mp live
    exact other (Option.some.inj ((kept j live).symm.trans held))
  · rw [same]
    exact fun live => dead j (kept j live) live

protected theorem acquire (kept : c.Kept) : c.acquire.2.Kept := by
  obtain ⟨i, -, -, same⟩ | ⟨dead, new⟩ := c.acquire_cases
  · rwa [same]
  · rw [new]
    intro j live
    obtain live | rfl := isOpen_append.mp live
    · exact absurd live (dead j (kept j live))
    · rfl

/-- Every step keeps what is open in hand. -/
theorem after (kept : c.Kept) (step : Step) : (c.after step).Kept := by
  cases step with
  | acquire => exact kept.acquire
  | cut =>
      show c.cut.Kept
      obtain same | ⟨i, -, shuts⟩ := c.cut_cases
      · rwa [same]
      · exact shuts ▸ kept.shut i
  | shut i => exact kept.shut i
  | close | leave => exact fun j live => absurd live kept.not_isOpen_close
  | enter => exact kept

/-- So does a run of steps. -/
theorem run (kept : c.Kept) (steps : List Step) : (c.run steps).Kept := by
  induction steps generalizing c with
  | nil => exact kept
  | cons step steps ih => exact ih (kept.after step)

end Kept

theorem isOpen_acquire (c : Connections) : c.acquire.2.isOpen c.acquire.1 := by
  obtain ⟨i, -, live, same⟩ | ⟨-, new⟩ := c.acquire_cases
  · rwa [same]
  · rw [new]
    exact isOpen_append.mpr (.inr rfl)

/-- No step but acquiring opens a connection. -/
theorem length_after (step : Step) (other : step ≠ .acquire) :
    (c.after step).closed.length = c.closed.length := by
  have shut (i : Nat) : (c.shut i).closed.length = c.closed.length := List.length_set
  have close : c.close.closed.length = c.closed.length := by
    obtain ⟨i, -, -, shuts⟩ | ⟨-, same⟩ := c.close_cases
    · rw [shuts]
      exact shut i
    · rw [same]
  cases step with
  | acquire => exact absurd rfl other
  | cut =>
      show c.cut.closed.length = _
      obtain same | ⟨i, -, shuts⟩ := c.cut_cases
      · rw [same]
      · rw [shuts, shut]
  | shut i => exact shut i
  | close | leave => exact close
  | enter => rfl

/-- After any steps: the connection acquired is open; at most one is open of all that were ever opened;
it is the one acquired, so that a step opens a new one only where none is open; and none is open once
the fetcher is closed or its scope left. -/
theorem sole_of_run (steps : List Step) :
    let c := none.run steps
    c.acquire.2.isOpen c.acquire.1 ∧
    (∀ i j, c.isOpen i → c.isOpen j → i = j) ∧
    (∀ i, c.isOpen i → c.acquire = (i, c)) ∧
    (∀ step, (c.after step).closed.length ≠ c.closed.length → ∀ i, ¬ c.isOpen i) ∧
    (∀ i, ¬ c.close.isOpen i) ∧
    ∀ i, ¬ c.leave.isOpen i := by
  intro c
  have kept : c.Kept := kept_none.run steps
  refine ⟨c.isOpen_acquire, fun i j => kept.unique, fun i => kept.acquire_eq, fun step opens i live => ?_,
    fun i => kept.not_isOpen_close, fun i => kept.not_isOpen_close⟩
  by_cases acquires : step = .acquire
  · subst acquires
    exact opens (by rw [after, kept.acquire_eq live])
  · exact opens (length_after step acquires)

end Attribution.Connections

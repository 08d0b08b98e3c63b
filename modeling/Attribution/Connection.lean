/-!
Connections that a fetcher opens when it needs one and keeps until it is closed. A connection may be
closed behind the fetcher's back.
-/

namespace Attribution

/-- All connections ever opened, told apart by their place, and the one the fetcher holds. -/
structure Connections where
  closed : List Bool
  held : Option Nat
  deriving DecidableEq, Repr

namespace Connections

def none : Connections := ⟨[], .none⟩

def isOpen (c : Connections) (i : Nat) : Bool := c.closed[i]? == some false

/-- The connection the fetcher holds, if it is open, else a new one. -/
def acquire (c : Connections) : Nat × Connections :=
  match c.held with
  | some i =>
    if c.isOpen i then (i, c) else (c.closed.length, ⟨c.closed ++ [false], some c.closed.length⟩)
  | .none => (c.closed.length, ⟨c.closed ++ [false], some c.closed.length⟩)

/-- Closes the held connection without the fetcher taking notice. -/
def cut (c : Connections) : Connections :=
  match c.held with
  | some i => { c with closed := c.closed.set i true }
  | .none => c

/-- Closes the held connection and lets go of it; one that is closed already is kept. -/
def close (c : Connections) : Connections :=
  match c.held with
  | some i => if c.isOpen i then ⟨c.closed.set i true, .none⟩ else c
  | .none => c

/-- Enters the scope of the fetcher; no connection is opened before one is needed. -/
def enter (c : Connections) : Connections := c

/-- Leaves the scope of the fetcher. -/
def leave (c : Connections) : Connections := c.close

/-- Acquires a connection in a scope of its own. -/
def visit (c : Connections) : Connections := c.enter.acquire.2.leave

end Connections

end Attribution

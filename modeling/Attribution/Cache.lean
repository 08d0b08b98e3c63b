import Attribution.Manifest
import Attribution.Tree

/-!
Resolved modules, kept under their identities so that each is resolved once.
-/

namespace Attribution

/-- A resolved module, how many levels of dependencies hang on it, and the manifest these were read
from, none for a module without one. -/
structure Cache.Entry where
  node : Node
  levels : Int
  manifest : Option PlacedManifest

/-- The resolved modules in the order in which they were first kept. -/
structure Cache where
  entries : List (ModuleId × Cache.Entry)

namespace Cache

def empty : Cache := ⟨[]⟩

def find? (c : Cache) (id : ModuleId) : Option Entry := c.entries.lookup id

def contains (c : Cache) (id : ModuleId) : Bool := (c.find? id).isSome

def size (c : Cache) : Nat := c.entries.length

/-- Keeps an entry under an identity; a new one comes last, an old one keeps its place. -/
def insert (id : ModuleId) (e : Entry) : List (ModuleId × Entry) → List (ModuleId × Entry)
  | [] => [(id, e)]
  | (key, old) :: rest => if key = id then (key, e) :: rest else (key, old) :: insert id e rest

/-- Keeps a resolved module under its identity. -/
def store (c : Cache) (e : Entry) : Cache := ⟨insert e.node.id e c.entries⟩

theorem lookup_cons (id key : ModuleId) (e : Entry) (rest : List (ModuleId × Entry)) :
    ((key, e) :: rest).lookup id = if id = key then some e else rest.lookup id := by
  by_cases h : id = key
  · simp [h]
  · simp [List.lookup_cons, h, beq_eq_false_iff_ne.2 h]

theorem lookup_insert (id key : ModuleId) (e : Entry) (entries : List (ModuleId × Entry)) :
    (insert key e entries).lookup id = if id = key then some e else entries.lookup id := by
  induction entries with
  | nil => exact lookup_cons id key e []
  | cons x rest ih =>
    obtain ⟨k, old⟩ := x
    unfold insert
    by_cases hk : k = key
    · rw [if_pos hk, lookup_cons, lookup_cons, hk]
      by_cases h : id = key <;> simp [h]
    · rw [if_neg hk, lookup_cons, lookup_cons, ih]
      by_cases h : id = key
      · rw [if_neg (h ▸ Ne.symm hk), if_pos h, if_pos h]
      · rw [if_neg h, if_neg h]

/-- The identity of a kept module leads to it, and every other one to what it led to before. -/
theorem find?_store (c : Cache) (e : Entry) (id : ModuleId) :
    (c.store e).find? id = if id = e.node.id then some e else c.find? id :=
  lookup_insert id e.node.id e c.entries

end Cache

end Attribution

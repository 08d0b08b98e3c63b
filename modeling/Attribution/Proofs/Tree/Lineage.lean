import Attribution.Proofs.Tree.Walk

/-!
The lineage of a tree: its nodes in the order of the walk, each with the modules it hangs below. What
a node is there depends on its ancestors where cycles are closed, and the same node may hang in
several places.
-/

namespace Attribution

/-- A node in its place: with the identities of its ancestors below the root, from the top down. -/
structure Occurrence where
  line : List ModuleId
  node : Node

namespace Node

mutual

/-- The occurrences in a tree that hangs below the given modules, in pre-order. -/
def lineage (line : List ModuleId) : Node → List Occurrence
  | ⟨version, replacement, license, dependencies, resolution⟩ =>
    ⟨line, ⟨version, replacement, license, dependencies, resolution⟩⟩ ::
      lineages (line ++ [Requirement.id ⟨version, replacement⟩]) dependencies

def lineages (line : List ModuleId) : List Node → List Occurrence
  | [] => []
  | n :: rest => lineage line n ++ lineages line rest

end

variable {line : List ModuleId} {n m : Node} {ns : List Node} {p : Occurrence}

theorem lineage_eq (line : List ModuleId) (n : Node) :
    lineage line n = ⟨line, n⟩ :: lineages (line ++ [n.id]) n.dependencies := by
  cases n; rfl

theorem mem_lineages : p ∈ lineages line ns ↔ ∃ n ∈ ns, p ∈ lineage line n := by
  induction ns with
  | nil => simp only [lineages, List.not_mem_nil, false_and, exists_false]
  | cons n ns ih => simp only [lineages, List.mem_append, List.mem_cons, exists_eq_or_imp, ih]

theorem mem_lineage :
    p ∈ lineage line n ↔ p = ⟨line, n⟩ ∨ ∃ m ∈ n.dependencies, p ∈ lineage (line ++ [n.id]) m := by
  rw [lineage_eq, List.mem_cons, mem_lineages]

mutual

theorem preorder_lineage (line : List ModuleId) : ∀ n : Node,
    preorder (line.length + 1) n = (lineage line n).map fun p => (p.line.length + 1, p.node)
  | ⟨version, replacement, _, dependencies, _⟩ => by
    have below := preorders_lineages (line ++ [Requirement.id ⟨version, replacement⟩]) dependencies
    rw [List.length_append, List.length_singleton] at below
    rw [preorder, below, lineage, List.map_cons]

theorem preorders_lineages (line : List ModuleId) : ∀ ns : List Node,
    preorders (line.length + 1) ns = (lineages line ns).map fun p => (p.line.length + 1, p.node)
  | [] => rfl
  | n :: rest => by
    rw [preorders, preorder_lineage line n, preorders_lineages line rest, lineages, List.map_append]

end

theorem nodes_lineages (line : List ModuleId) (ns : List Node) :
    (lineages line ns).map (·.node) = nodes ns := by
  rw [nodes, preorders_nodes 1 (line.length + 1), preorders_lineages, List.map_map]
  rfl

theorem nodes_lineage (line : List ModuleId) (n : Node) :
    (lineage line n).map (·.node) = nodes [n] := by
  rw [← nodes_lineages line, lineages, lineages, List.append_nil]

theorem mem_nodes_of_mem_lineages (h : p ∈ lineages line ns) : p.node ∈ nodes ns := by
  rw [← nodes_lineages line]
  exact List.mem_map_of_mem h

/-- What hangs on an occurrence occurs below it. -/
theorem mem_lineage_child (h : p ∈ lineage line n) (below : m ∈ p.node.dependencies) :
    ⟨p.line ++ [p.node.id], m⟩ ∈ lineage line n := by
  induction n using Node.induction generalizing line with
  | step n ih =>
      cases mem_lineage.mp h with
      | inl here =>
          subst here
          exact mem_lineage.mpr (.inr ⟨m, below, mem_lineage.mpr (.inl rfl)⟩)
      | inr lower =>
          obtain ⟨next, hnext, within⟩ := lower
          exact mem_lineage.mpr (.inr ⟨next, hnext, ih next hnext within⟩)

theorem mem_lineages_child (h : p ∈ lineages line ns) (below : m ∈ p.node.dependencies) :
    ⟨p.line ++ [p.node.id], m⟩ ∈ lineages line ns := by
  obtain ⟨n, hn, within⟩ := mem_lineages.mp h
  exact mem_lineages.mpr ⟨n, hn, mem_lineage_child within below⟩

/-- An occurrence is at the top, or hangs on another one. -/
theorem parent_of_mem_lineage (h : p ∈ lineage line n) :
    p = ⟨line, n⟩ ∨ ∃ q ∈ lineage line n, p.node ∈ q.node.dependencies ∧
      p.line = q.line ++ [q.node.id] := by
  induction n using Node.induction generalizing line with
  | step n ih =>
      cases mem_lineage.mp h with
      | inl here => exact .inl here
      | inr lower =>
          obtain ⟨m, hm, within⟩ := lower
          cases ih m hm within with
          | inl top =>
              subst top
              exact .inr ⟨⟨line, n⟩, mem_lineage.mpr (.inl rfl), hm, rfl⟩
          | inr under =>
              obtain ⟨q, there, below⟩ := under
              exact .inr ⟨q, mem_lineage.mpr (.inr ⟨m, hm, there⟩), below⟩

theorem parent_of_mem_lineages (h : p ∈ lineages line ns) :
    p.line = line ∧ p.node ∈ ns ∨ ∃ q ∈ lineages line ns, p.node ∈ q.node.dependencies ∧
      p.line = q.line ++ [q.node.id] := by
  obtain ⟨n, hn, within⟩ := mem_lineages.mp h
  cases parent_of_mem_lineage within with
  | inl top =>
      subst top
      exact .inl ⟨rfl, hn⟩
  | inr under =>
      obtain ⟨q, there, below⟩ := under
      exact .inr ⟨q, mem_lineages.mpr ⟨n, hn, there⟩, below⟩

/-- A module that an occurrence hangs below occurs there, with something hanging on it. -/
theorem exists_of_mem_line {id : ModuleId} (h : p ∈ lineages line ns) (above : id ∈ p.line) :
    id ∈ line ∨ ∃ q ∈ lineages line ns, q.node.id = id ∧ q.node.dependencies ≠ [] := by
  induction length : p.line.length generalizing p with
  | zero =>
      rw [List.length_eq_zero_iff.mp length] at above
      cases above
  | succ k ih =>
      obtain ⟨top, -⟩ | ⟨q, there, below, under⟩ := parent_of_mem_lineages h
      · exact .inl (top ▸ above)
      · rw [under] at above length
        cases List.mem_append.mp above with
        | inl higher => exact ih there higher (by simpa using length)
        | inr next =>
            exact .inr ⟨q, there, (List.mem_singleton.mp next).symm, List.ne_nil_of_mem below⟩

end Node

namespace Tree

/-- The occurrences below the root. -/
def lineage (t : Tree) : List Occurrence := Node.lineages [] t.root.dependencies

end Tree

end Attribution

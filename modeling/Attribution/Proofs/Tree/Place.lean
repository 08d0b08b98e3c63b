import Attribution.Proofs.Tree.Walk

/-!
The places of a tree: which dependency to go on with, one level after the other. Two equal nodes may
hang in different places. The walk goes through the places in lexicographic order, so that each node
is visited once, before what lies below it and before its later siblings.
-/

namespace Attribution

namespace Node

/-- The node at a place below a node, none if the place leaves the tree. -/
def nodeAt? (n : Node) : List Nat → Option Node
  | [] => some n
  | i :: place => n.dependencies[i]?.bind fun m => m.nodeAt? place

mutual

/-- The places of a tree, the node's own first. -/
def places : Node → List (List Nat)
  | ⟨_, _, _, dependencies, _⟩ => [] :: placesFrom 0 dependencies

/-- The places in dependencies that are counted from a number on. -/
def placesFrom (i : Nat) : List Node → List (List Nat)
  | [] => []
  | n :: rest => n.places.map (i :: ·) ++ placesFrom (i + 1) rest

end

variable {n m : Node} {ns : List Node} {i : Nat} {place : List Nat}

theorem nodeAt?_cons (child : n.dependencies[i]? = some m) (place : List Nat) :
    n.nodeAt? (i :: place) = m.nodeAt? place := by
  rw [nodeAt?, child, Option.bind_some]

theorem places_eq (n : Node) : n.places = [] :: placesFrom 0 n.dependencies := by
  cases n; rfl

theorem mem_placesFrom : place ∈ placesFrom i ns ↔
    ∃ j n below, place = (i + j) :: below ∧ ns[j]? = some n ∧ below ∈ n.places := by
  induction ns generalizing i with
  | nil => simp [placesFrom]
  | cons n ns ih =>
      rw [placesFrom, List.mem_append, List.mem_map, ih]
      constructor
      · rintro (⟨below, mem, rfl⟩ | ⟨j, m, below, rfl, child, mem⟩)
        · exact ⟨0, n, below, rfl, rfl, mem⟩
        · exact ⟨j + 1, m, below, by rw [Nat.add_right_comm, Nat.add_assoc], child, mem⟩
      · rintro ⟨j, m, below, rfl, child, mem⟩
        cases j with
        | zero =>
            cases child
            exact .inl ⟨below, mem, rfl⟩
        | succ j =>
            exact .inr ⟨j, m, below, by rw [Nat.add_right_comm, Nat.add_assoc], child, mem⟩

theorem cons_mem_places : i :: place ∈ n.places ↔
    ∃ m, n.dependencies[i]? = some m ∧ place ∈ m.places := by
  rw [places_eq, List.mem_cons, mem_placesFrom]
  simp only [Nat.zero_add, List.cons.injEq]
  constructor
  · rintro (root | ⟨j, m, below, ⟨same, rfl⟩, child, mem⟩)
    · cases root
    · exact ⟨m, same ▸ child, mem⟩
  · rintro ⟨m, child, mem⟩
    exact .inr ⟨i, m, place, ⟨rfl, rfl⟩, child, mem⟩

theorem isSome_nodeAt?_cons : (n.nodeAt? (i :: place)).isSome ↔
    ∃ m, n.dependencies[i]? = some m ∧ (m.nodeAt? place).isSome := by
  rw [nodeAt?]
  cases n.dependencies[i]? with
  | none => simp
  | some m => simp

/-- The places are those at which there is a node. -/
theorem mem_places : place ∈ n.places ↔ (n.nodeAt? place).isSome := by
  induction place generalizing n with
  | nil => simp [places_eq, nodeAt?]
  | cons i place ih => simp only [cons_mem_places, isSome_nodeAt?_cons, ih]

mutual

theorem pairwise_places : ∀ n : Node, n.places.Pairwise (· < ·)
  | ⟨_, _, _, dependencies, _⟩ => by
    refine List.pairwise_cons.mpr ⟨fun place mem => ?_, pairwise_placesFrom 0 dependencies⟩
    obtain ⟨j, m, below, rfl, -, -⟩ := mem_placesFrom.mp mem
    exact List.nil_lt_cons _ _

theorem pairwise_placesFrom (i : Nat) : ∀ ns : List Node, (placesFrom i ns).Pairwise (· < ·)
  | [] => List.Pairwise.nil
  | n :: rest => by
    refine List.pairwise_append.mpr ⟨?_, pairwise_placesFrom (i + 1) rest, ?_⟩
    · refine List.pairwise_map.mpr ((pairwise_places n).imp fun before => ?_)
      exact List.cons_lt_cons_iff.mpr (.inr ⟨rfl, before⟩)
    · intro place here later after
      obtain ⟨below, -, rfl⟩ := List.mem_map.mp here
      obtain ⟨j, m, beyond, rfl, -, -⟩ := mem_placesFrom.mp after
      exact List.cons_lt_cons_iff.mpr (.inl (by omega))

end

mutual

/-- The pre-order goes through the places in their order. What lies at a place is as deep as the
place is long. -/
theorem preorder_places (depth : Nat) : ∀ n : Node,
    (preorder depth n).map (fun entry => (entry.1, some entry.2)) =
      n.places.map fun place => (depth + place.length, n.nodeAt? place)
  | ⟨version, replacement, license, dependencies, resolution⟩ => by
    rw [preorder, places, List.map_cons, List.map_cons]
    refine congrArg _ (preorders_places depth _ dependencies [] rfl)

theorem preorders_places (depth : Nat) (n : Node) : ∀ (ns before : List Node),
    n.dependencies = before ++ ns →
      (preorders (depth + 1) ns).map (fun entry => (entry.1, some entry.2)) =
        (placesFrom before.length ns).map fun place => (depth + place.length, n.nodeAt? place)
  | [], _, _ => rfl
  | m :: rest, before, split => by
    have child : n.dependencies[before.length]? = some m := by simp [split]
    have later := preorders_places depth n rest (before ++ [m]) (by simp [split])
    rw [List.length_append, List.length_singleton] at later
    rw [preorders, placesFrom, List.map_append, List.map_append, preorder_places (depth + 1) m, later,
      List.map_map]
    congr 2
    funext place
    simp only [Function.comp_apply, List.length_cons, nodeAt?_cons child, Nat.add_assoc,
      Nat.add_comm 1]

end

end Node

namespace Tree

/-- The places below the root. -/
def places (t : Tree) : List (List Nat) := Node.placesFrom 0 t.root.dependencies

theorem mem_places {t : Tree} {place : List Nat} :
    place ∈ t.places ↔ place ≠ [] ∧ (t.root.nodeAt? place).isSome := by
  have root : [] ∉ t.places := by
    intro mem
    obtain ⟨j, m, below, nothing, -, -⟩ := Node.mem_placesFrom.mp mem
    cases nothing
  rw [← Node.mem_places, Node.places_eq, List.mem_cons]
  constructor
  · intro mem
    exact ⟨fun nothing => root (nothing ▸ mem), .inr mem⟩
  · rintro ⟨some, nothing | mem⟩
    · exact absurd nothing some
    · exact mem

/-- The walk with a stack is the recursive pre-order of what lies below the root. It visits the node
at each place below the root once, in the lexicographic order of the places, and pairs it with its
distance from the root. -/
theorem walk_places (t : Tree) :
    t.walk = Node.preorders 1 t.root.dependencies ∧
    t.walk.map (fun entry => (entry.1, some entry.2)) =
      t.places.map (fun place => (place.length, t.root.nodeAt? place)) ∧
    t.places.Pairwise (· < ·) ∧
    ∀ place, place ∈ t.places ↔ place ≠ [] ∧ (t.root.nodeAt? place).isSome := by
  refine ⟨walk_eq t, ?_, Node.pairwise_placesFrom 0 t.root.dependencies, fun place => mem_places⟩
  have visited := Node.preorders_places 0 t.root t.root.dependencies [] rfl
  simp only [Nat.zero_add] at visited
  rw [walk_eq]
  exact visited

end Tree

end Attribution

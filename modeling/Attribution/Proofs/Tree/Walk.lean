import Attribution.Report

/-!
The walk through a tree is its pre-order: every node below the root once, what lies below it right
after it. So what holds throughout the tree, and how deep the tree goes, can be read off the walk.
-/

namespace Attribution

namespace Node

mutual

/-- The nodes of a tree in pre-order, each with its depth. -/
def preorder (depth : Nat) : Node → List (Nat × Node)
  | ⟨version, replacement, license, dependencies, resolution⟩ =>
    (depth, ⟨version, replacement, license, dependencies, resolution⟩) ::
      preorders (depth + 1) dependencies

def preorders (depth : Nat) : List Node → List (Nat × Node)
  | [] => []
  | n :: rest => preorder depth n ++ preorders depth rest

end

theorem preorder_eq (depth : Nat) (n : Node) :
    preorder depth n = (depth, n) :: preorders (depth + 1) n.dependencies := by
  cases n; rfl

theorem preorders_eq (depth : Nat) (ns : List Node) :
    preorders depth ns = ns.flatMap (preorder depth) := by
  induction ns with
  | nil => rfl
  | cons n ns ih => rw [preorders, ih, List.flatMap_cons]

/-- What a stack holds is visited in its order, each tree in pre-order. -/
theorem walkStack_eq (stack : List (Nat × Node)) :
    walkStack stack = stack.flatMap fun entry => preorder entry.1 entry.2 := by
  induction stack using walkStack.induct with
  | case1 => rw [walkStack, List.flatMap_nil]
  | case2 depth n stack ih =>
      simp only [List.map_subtype, List.unattach_attach] at ih
      rw [walkStack, ih, List.flatMap_append, List.flatMap_map, List.flatMap_cons, preorder_eq,
        preorders_eq, List.cons_append]

/-- The nodes of several trees, in pre-order. -/
def nodes (ns : List Node) : List Node := (preorders 1 ns).map (·.2)

def licensed (ns : List Node) : List Node :=
  ((preorders 1 ns).map (·.2)).filter (·.license.isSome)

mutual

theorem preorder_nodes (depth depth' : Nat) :
    ∀ n : Node, (preorder depth n).map (·.2) = (preorder depth' n).map (·.2)
  | ⟨_, _, _, dependencies, _⟩ => by
    simp only [preorder, List.map_cons, preorders_nodes (depth + 1) (depth' + 1) dependencies]

theorem preorders_nodes (depth depth' : Nat) :
    ∀ ns : List Node, (preorders depth ns).map (·.2) = (preorders depth' ns).map (·.2)
  | [] => rfl
  | n :: rest => by
    simp only [preorders, List.map_append, preorder_nodes depth depth' n,
      preorders_nodes depth depth' rest]

end

@[simp] theorem nodes_nil : nodes [] = [] := rfl

theorem nodes_cons (n : Node) (ns : List Node) :
    nodes (n :: ns) = n :: nodes n.dependencies ++ nodes ns := by
  simp only [nodes, preorders, preorder_eq, List.map_append, List.map_cons, preorders_nodes 2 1]

theorem mem_nodes_cons {m n : Node} {ns : List Node} :
    m ∈ nodes (n :: ns) ↔ m = n ∨ m ∈ nodes n.dependencies ∨ m ∈ nodes ns := by
  rw [nodes_cons, List.cons_append, List.mem_cons, List.mem_append]

theorem mem_nodes_singleton {m n : Node} :
    m ∈ nodes [n] ↔ m = n ∨ m ∈ nodes n.dependencies := by
  simp only [mem_nodes_cons, nodes_nil, List.not_mem_nil, or_false]

/-- What lies in several trees lies in one of them. -/
theorem mem_nodes {m : Node} {ns : List Node} : m ∈ nodes ns ↔ ∃ n ∈ ns, m ∈ nodes [n] := by
  induction ns with
  | nil => simp only [nodes_nil, List.not_mem_nil, false_and, exists_false]
  | cons n ns ih =>
      simp only [List.mem_cons, exists_eq_or_imp]
      rw [← ih, mem_nodes_singleton, mem_nodes_cons, or_assoc]

theorem mem_nodes_of_mem {n : Node} {ns : List Node} (h : n ∈ ns) : n ∈ nodes ns :=
  mem_nodes.mpr ⟨n, h, mem_nodes_singleton.mpr (.inl rfl)⟩

mutual

/-- What holds of a node if it holds of all that hangs on it holds of every node. -/
theorem induction {P : Node → Prop} (step : ∀ n, (∀ m ∈ n.dependencies, P m) → P n) :
    ∀ n : Node, P n
  | ⟨_, _, _, dependencies, _⟩ => step _ (inductions step dependencies)

theorem inductions {P : Node → Prop} (step : ∀ n, (∀ m ∈ n.dependencies, P m) → P n) :
    ∀ ns : List Node, ∀ n ∈ ns, P n
  | [], _, h => nomatch h
  | first :: rest, n, h => by
    cases List.mem_cons.mp h with
    | inl here =>
        rw [here]
        exact induction step first
    | inr later => exact inductions step rest n later

end

/-- What hangs on a node of a tree is in the tree. -/
theorem mem_nodes_trans {m n : Node} {ns : List Node} (h : n ∈ nodes ns)
    (below : m ∈ n.dependencies) : m ∈ nodes ns := by
  obtain ⟨top, given, within⟩ := mem_nodes.mp h
  refine mem_nodes.mpr ⟨top, given, ?_⟩
  induction top using Node.induction generalizing ns with
  | step top ih =>
      apply mem_nodes_singleton.mpr
      cases mem_nodes_singleton.mp within with
      | inl here =>
          subst here
          exact .inr (mem_nodes_of_mem below)
      | inr lower =>
          obtain ⟨next, hnext, within⟩ := mem_nodes.mp lower
          exact .inr (mem_nodes.mpr ⟨next, hnext, ih next hnext lower hnext within⟩)

/-- What holds of the first nodes of a tree, and passes to what hangs on them, holds of all. -/
theorem nodes_induction {P : Node → Prop} {ns : List Node} (first : ∀ n ∈ ns, P n)
    (below : ∀ n ∈ nodes ns, P n → ∀ m ∈ n.dependencies, P m) : ∀ n ∈ nodes ns, P n := by
  have under (top : Node) : top ∈ nodes ns → P top → ∀ n ∈ nodes [top], P n := by
    induction top using Node.induction with
    | step top ih =>
        intro inside here n h
        cases mem_nodes_singleton.mp h with
        | inl same =>
            rw [same]
            exact here
        | inr lower =>
            obtain ⟨next, hnext, within⟩ := mem_nodes.mp lower
            exact ih next hnext (mem_nodes_trans inside hnext) (below top inside here next hnext) n
              within
  intro n h
  obtain ⟨top, given, within⟩ := mem_nodes.mp h
  exact under top (mem_nodes_of_mem given) (first top given) n within

/-- `P` holds of a node and of all that lies below it. -/
def Throughout (P : Node → Prop) (n : Node) : Prop := ∀ m ∈ nodes [n], P m

theorem throughout_iff {P : Node → Prop} {n : Node} :
    n.Throughout P ↔ P n ∧ ∀ m ∈ n.dependencies, m.Throughout P := by
  have below : (∀ m ∈ nodes n.dependencies, P m) ↔ ∀ m ∈ n.dependencies, m.Throughout P := by
    constructor
    · intro h m hm k hk
      exact h k (mem_nodes.mpr ⟨m, hm, hk⟩)
    · intro h k hk
      obtain ⟨m, hm, within⟩ := mem_nodes.mp hk
      exact h m hm k within
  rw [← below]
  simp only [Throughout, mem_nodes_singleton, or_imp, forall_and, forall_eq]

theorem Throughout.imp {P Q : Node → Prop} {n : Node} (h : n.Throughout P)
    (weaker : ∀ m, P m → Q m) : n.Throughout Q := fun m hm => weaker m (h m hm)

@[simp] theorem licensed_nil : licensed [] = [] := rfl

theorem licensed_eq (ns : List Node) : licensed ns = (nodes ns).filter (·.license.isSome) := rfl

theorem licensed_cons (n : Node) (ns : List Node) :
    licensed (n :: ns) =
      (if n.license.isSome then [n] else []) ++ licensed n.dependencies ++ licensed ns := by
  rw [licensed_eq, nodes_cons, List.filter_append, List.filter_cons]
  split <;> rfl

/-- A node that has neither a license nor anything below it. -/
def Bare (n : Node) : Prop := n.license = none ∧ n.dependencies = []

/-- The tree below a node goes no further than so many levels, and what is that far down is bare. -/
def Within : Nat → Node → Prop
  | 0, n => n.Bare
  | k + 1, n => ∀ m ∈ n.dependencies, m.Within k

theorem within_of_alone {n : Node} (alone : n.dependencies = []) (k : Nat) : n.Within (k + 1) := by
  intro m hm
  rw [alone] at hm
  cases hm

theorem mem_preorder {n : Node} {depth : Nat} {entry : Nat × Node} :
    entry ∈ preorder depth n ↔
      entry = (depth, n) ∨ ∃ m ∈ n.dependencies, entry ∈ preorder (depth + 1) m := by
  rw [preorder_eq, preorders_eq, List.mem_cons, List.mem_flatMap]

theorem self_mem_preorder (n : Node) (depth : Nat) : (depth, n) ∈ preorder depth n :=
  mem_preorder.mpr (.inl rfl)

theorem le_of_mem_preorder {n : Node} {depth : Nat} {entry : Nat × Node}
    (h : entry ∈ preorder depth n) : depth ≤ entry.1 := by
  induction n using Node.induction generalizing depth with
  | step n ih =>
      cases mem_preorder.mp h with
      | inl here => exact Nat.le_of_eq (congrArg Prod.fst here).symm
      | inr below =>
          obtain ⟨m, hm, h⟩ := below
          exact Nat.le_of_succ_le (ih m hm h)

theorem mem_preorder_child {m n top : Node} {k depth : Nat} (h : (k, n) ∈ preorder depth top)
    (below : m ∈ n.dependencies) : (k + 1, m) ∈ preorder depth top := by
  induction top using Node.induction generalizing depth with
  | step top ih =>
      apply mem_preorder.mpr
      cases mem_preorder.mp h with
      | inl here =>
          cases here
          exact .inr ⟨m, below, self_mem_preorder m _⟩
      | inr lower =>
          obtain ⟨next, child, within⟩ := lower
          exact .inr ⟨next, child, ih next child within⟩

theorem within_iff {k depth : Nat} {n : Node} :
    n.Within k ↔ ∀ entry ∈ preorder depth n,
      entry.1 ≤ depth + k ∧ (entry.1 = depth + k → entry.2.Bare) := by
  induction k generalizing depth n with
  | zero =>
      constructor
      · intro bare entry h
        cases mem_preorder.mp h with
        | inl here =>
            subst here
            exact ⟨Nat.le_refl _, fun _ => bare⟩
        | inr below =>
            obtain ⟨m, hm, -⟩ := below
            rw [bare.2] at hm
            cases hm
      · intro h
        exact (h _ (self_mem_preorder n depth)).2 rfl
  | succ k ih =>
      have level : depth + 1 + k = depth + (k + 1) := by omega
      constructor
      · intro within entry h
        cases mem_preorder.mp h with
        | inl here =>
            subst here
            exact ⟨Nat.le_add_right _ _, fun deep => by simp at deep⟩
        | inr below =>
            obtain ⟨m, hm, h⟩ := below
            have inner := ih.mp (within m hm) entry h
            rwa [level] at inner
      · intro h m hm
        apply ih.mpr
        intro entry inner
        rw [level]
        exact h entry (mem_preorder.mpr (.inr ⟨m, hm, inner⟩))

end Node

namespace Tree

/-- The walk through a tree is the pre-order of what lies below its root. -/
theorem walk_eq (t : Tree) : t.walk = Node.preorders 1 t.root.dependencies := by
  rw [walk, Node.walkStack_eq, Node.preorders_eq, List.flatMap_map]

theorem mem_walk {t : Tree} {entry : Nat × Node} :
    entry ∈ t.walk ↔ ∃ n ∈ t.root.dependencies, entry ∈ Node.preorder 1 n := by
  rw [walk_eq, Node.preorders_eq, List.mem_flatMap]

theorem mem_walk_child {t : Tree} {k : Nat} {m n : Node} (h : (k, n) ∈ t.walk)
    (below : m ∈ n.dependencies) : (k + 1, m) ∈ t.walk := by
  obtain ⟨top, first, within⟩ := mem_walk.mp h
  exact mem_walk.mpr ⟨top, first, Node.mem_preorder_child within below⟩

theorem walk_nodes (t : Tree) : t.walk.map (·.2) = Node.nodes t.root.dependencies := by
  rw [walk_eq, Node.nodes]

theorem mem_nodes_of_mem_walk {t : Tree} {entry : Nat × Node} (h : entry ∈ t.walk) :
    entry.2 ∈ Node.nodes t.root.dependencies := by
  rw [← walk_nodes]
  exact List.mem_map_of_mem h

theorem forall_walk {P : Node → Prop} (t : Tree) :
    (∀ entry ∈ t.walk, P entry.2) ↔ ∀ n ∈ t.root.dependencies, n.Throughout P := by
  have nodes : (∀ entry ∈ t.walk, P entry.2) ↔ ∀ m ∈ Node.nodes t.root.dependencies, P m := by
    rw [← t.walk_nodes, List.forall_mem_map]
  rw [nodes]
  constructor
  · intro h n hn m hm
    exact h m (Node.mem_nodes.mpr ⟨n, hn, hm⟩)
  · intro h m hm
    obtain ⟨n, hn, within⟩ := Node.mem_nodes.mp hm
    exact h n hn m within

/-- A tree goes no further than one level beyond the depth, and what is there is bare. -/
def Bounded (depth : Nat) (t : Tree) : Prop :=
  ∀ entry ∈ t.walk, entry.1 ≤ depth + 1 ∧ (entry.1 = depth + 1 → entry.2.Bare)

theorem bounded_iff {depth : Nat} {t : Tree} :
    t.Bounded depth ↔ ∀ n ∈ t.root.dependencies, n.Within depth := by
  rw [Bounded, walk_eq, Node.preorders_eq, Nat.add_comm depth 1]
  constructor
  · intro h n hn
    apply Node.within_iff.mpr
    intro entry below
    exact h entry (List.mem_flatMap.mpr ⟨n, hn, below⟩)
  · intro h entry below
    obtain ⟨n, hn, within⟩ := List.mem_flatMap.mp below
    exact Node.within_iff.mp (h n hn) entry within

theorem licensed_walk (t : Tree) :
    (t.walk.filter (·.2.license.isSome)).map (·.2) = Node.licensed t.root.dependencies := by
  rw [walk_eq, Node.licensed, List.filter_map]
  rfl

end Tree

end Attribution

import Attribution.License
import Attribution.Text.Quoted

/-!
Dependency trees: resolved modules with their licenses and dependencies, the walk through them, and
the one occurrence of each module that a report shows.
-/

namespace Attribution

/-- How a node came to have what it has. -/
inductive Resolution where
  | resolved
  | leaf
  | skipped
  | unlicensed
  | unexpanded
  | cycle
  | root
  deriving DecidableEq, Repr

def Resolution.text : Resolution → String
  | resolved => "resolved"
  | leaf => "leaf"
  | skipped => "skipped"
  | unlicensed => "unlicensed"
  | unexpanded => "unexpanded"
  | cycle => "cycle"
  | root => "root"

/-- A module in a tree, with its direct dependencies in the order of its manifest. -/
structure Node where
  version : ModuleVersion
  replacement : Option Replacement
  license : Option License
  dependencies : List Node
  resolution : Resolution
  deriving Repr

namespace Node

/-- The requirement that a node answers. -/
def requirement (n : Node) : Requirement := ⟨n.version, n.replacement⟩

def id (n : Node) : ModuleId := n.requirement.id

def licenseName (n : Node) : Option String := n.license.map (·.name)

/-- A node of a requirement that was not looked into. -/
def bare (r : Requirement) (resolution : Resolution) : Node :=
  ⟨r.version, r.replacement, none, [], resolution⟩

/-- A node as it is logged. -/
def text (n : Node) : String :=
  let replaced :=
    match n.replacement with
    | none => ""
    | some r => ", replaced(" ++ Text.quoteString r.text ++ ")"
  let licensed :=
    match n.license with
    | none => ""
    | some l => ", license(" ++ Text.quoteString l.name ++ ")"
  "GoModule[" ++ n.version.text ++ replaced ++ licensed ++ ", dependencies(" ++
    toString n.dependencies.length ++ ")]"

/-- What a node shows beside its version: its license, or how it was resolved. -/
def mark (n : Node) : String :=
  match n.licenseName with
  | some name => if name = "" then "(" ++ n.resolution.text ++ ")" else name
  | none => "(" ++ n.resolution.text ++ ")"

def label (n : Node) : String := n.version.text ++ " " ++ n.mark

mutual

/-- The nodes of a tree, its root included. -/
def size : Node → Nat
  | ⟨_, _, _, dependencies, _⟩ => sizes dependencies + 1

/-- The nodes of several trees. -/
def sizes : List Node → Nat
  | [] => 0
  | n :: rest => n.size + sizes rest

end

theorem size_eq (n : Node) : n.size = sizes n.dependencies + 1 := by
  cases n; rfl

theorem sizes_append (ns ms : List Node) : sizes (ns ++ ms) = sizes ns + sizes ms := by
  induction ns with
  | nil => simp [sizes]
  | cons n ns ih => simp [sizes, ih, Nat.add_assoc]

/-- Visits the nodes of a stack, each with its depth, and what lies below a node right after it. -/
def walkStack : List (Nat × Node) → List (Nat × Node)
  | [] => []
  | (depth, n) :: stack =>
    (depth, n) :: walkStack (n.dependencies.map (depth + 1, ·) ++ stack)
termination_by stack => sizes (stack.map (·.2))
decreasing_by
  simp [sizes, sizes_append, size_eq, Function.comp_def]

end Node

/-- The dependency tree of a module. The root stands for the main module. -/
structure Tree where
  root : Node
  deriving Repr

namespace Tree

/-- The nodes below the root, depth first, with their distance from the root. -/
def walk (t : Tree) : List (Nat × Node) := Node.walkStack (t.root.dependencies.map (1, ·))

/-- Adds an occurrence to those kept: one of a new module is kept, and a licensed one takes the place
of one without a license. -/
def keepBest (n : Node) : List Node → List Node
  | [] => [n]
  | m :: rest =>
    if m.id = n.id then (if m.license.isNone && n.license.isSome then n else m) :: rest
    else m :: keepBest n rest

/-- One occurrence of each module, in the order of their first occurrences. -/
def modules (t : Tree) : List Node := t.walk.foldl (fun kept (_, n) => keepBest n kept) []

end Tree

end Attribution

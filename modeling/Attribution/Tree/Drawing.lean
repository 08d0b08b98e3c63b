import Attribution.Text.Wrap
import Attribution.Tree

/-!
The text of a tree: one branch a node, with guides that show what hangs where. A label too wide for
its room goes on in further lines; where there is no room at all, nothing is drawn.
-/

namespace Attribution.Tree

open Text

/-- The columns of the drawing. -/
def columns : Nat := 200

/-- The columns one level of guides takes. -/
def guideWidth : Nat := 4

def branchMark (last : Bool) : List Char := if last then "└── ".toList else "├── ".toList

def guideMark (last : Bool) : List Char := if last then "    ".toList else "│   ".toList

/-- The lines of a label below the guides of its ancestors. -/
def labelLines (depth : Nat) (pad : List Char) (last : Bool) (label : List Char) :
    List (List Char) :=
  if columns ≤ guideWidth * depth then []
  else
    match wrap (columns - guideWidth * depth) label with
    | [] => []
    | line :: more =>
      (pad ++ branchMark last ++ line) :: more.map (pad ++ guideMark last ++ ·)

mutual

/-- The lines of a node and of what hangs on it. -/
def nodeLines (depth : Nat) (pad : List Char) (last : Bool) : Node → List (List Char)
  | ⟨version, replacement, license, dependencies, resolution⟩ =>
    labelLines depth pad last
      (Node.label ⟨version, replacement, license, [], resolution⟩).toList ++
      childLines (depth + 1) (pad ++ guideMark last) dependencies

/-- The lines of the children of one node. -/
def childLines (depth : Nat) (pad : List Char) : List Node → List (List Char)
  | [] => []
  | n :: rest => nodeLines depth pad rest.isEmpty n ++ childLines depth pad rest

end

/-- The lines of a tree. -/
def lines (t : Tree) : List (List Char) :=
  wrap columns t.root.version.path.toList ++ childLines 1 [] t.root.dependencies

/-- The text of a tree; every line is ended. -/
def render (t : Tree) : String :=
  String.ofList (t.lines.flatMap (· ++ ['\n']))

end Attribution.Tree

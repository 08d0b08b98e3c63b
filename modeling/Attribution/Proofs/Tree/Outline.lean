import Attribution.Proofs.Text.Fit
import Attribution.Proofs.Text.Lines
import Attribution.Proofs.Tree.Drawing
import Attribution.Proofs.Tree.Place

/-!
A drawn tree read line by line. Where all labels fit, there is one line for the root and one for each
node of the walk. The line of a node shows what goes on beside each node above it, so that its depth can
be read off.
-/

namespace Attribution

open Text Attribution.Tree

namespace Node

/-- The place of the next sibling. -/
def nextPlace : List Nat → List Nat
  | [] => []
  | [i] => [i + 1]
  | i :: j :: place => i :: nextPlace (j :: place)

/-- Whether a later sibling hangs beside what is at a place. -/
def isFollowed (n : Node) (place : List Nat) : Bool := (n.nodeAt? (nextPlace place)).isSome

/-- The places above a place, from the top down, without that of the root. -/
def ancestors (place : List Nat) : List (List Nat) :=
  (List.range (place.length - 1)).map fun above => place.take (above + 1)

/-- The label of the node at a place. -/
def labelAt (n : Node) (place : List Nat) : List Char :=
  ((n.nodeAt? place).map (·.label.toList)).getD []

/-- The line of the node at a place: for each node above it a bar if a sibling follows that one, else
blanks; a mark, and the label. -/
def lineAt (n : Node) (place : List Nat) : List Char :=
  (ancestors place).flatMap (fun above => (if n.isFollowed above then "│   " else "    ").toList) ++
    (if n.isFollowed place then "├── " else "└── ").toList ++ n.labelAt place

variable {n m : Node} {i : Nat} {place above : List Nat}

theorem isFollowed_singleton (n : Node) (i : Nat) :
    n.isFollowed [i] = decide (i + 1 < n.dependencies.length) := by
  rw [isFollowed, nextPlace, nodeAt?]
  by_cases more : i + 1 < n.dependencies.length
  · simp [more, nodeAt?]
  · simp [more]

theorem isFollowed_cons (child : n.dependencies[i]? = some m) (below : place ≠ []) :
    n.isFollowed (i :: place) = m.isFollowed place := by
  obtain ⟨j, place, rfl⟩ := List.exists_cons_of_ne_nil below
  rw [isFollowed, nextPlace, nodeAt?_cons child, isFollowed]

theorem ancestors_cons (i : Nat) (below : place ≠ []) :
    ancestors (i :: place) = [i] :: (ancestors place).map (i :: ·) := by
  obtain ⟨j, place, rfl⟩ := List.exists_cons_of_ne_nil below
  simp only [ancestors, List.length_cons, Nat.add_sub_cancel, List.range_succ_eq_map, List.map_cons,
    List.map_map]
  rfl

theorem ne_nil_of_mem_ancestors (h : above ∈ ancestors place) : above ≠ [] := by
  obtain ⟨depth, mem, rfl⟩ := List.mem_map.mp h
  cases place with
  | nil => cases mem
  | cons i place => exact List.cons_ne_nil i _

theorem lineAt_eq (n : Node) (place : List Nat) :
    n.lineAt place = (ancestors place).flatMap (fun above => guideMark (!n.isFollowed above)) ++
      branchMark (!n.isFollowed place) ++ n.labelAt place := by
  have guide (followed : Bool) :
      guideMark (!followed) = (if followed then "│   " else "    ").toList := by
    cases followed <;> rfl
  have mark (followed : Bool) :
      branchMark (!followed) = (if followed then "├── " else "└── ").toList := by
    cases followed <;> rfl
  simp only [lineAt, guide, mark]

theorem lineAt_singleton (child : n.dependencies[i]? = some m) :
    n.lineAt [i] = branchMark (!n.isFollowed [i]) ++ m.label.toList := by
  rw [lineAt_eq, labelAt, nodeAt?_cons child]
  rfl

/-- A line below a node has one guide more than the same line seen from there. -/
theorem lineAt_cons (child : n.dependencies[i]? = some m) (below : place ≠ []) :
    n.lineAt (i :: place) = guideMark (!n.isFollowed [i]) ++ m.lineAt place := by
  have guides : (ancestors place).flatMap (fun above => guideMark (!n.isFollowed (i :: above))) =
      (ancestors place).flatMap fun above => guideMark (!m.isFollowed above) :=
    List.flatMap_congr fun above mem => by rw [isFollowed_cons child (ne_nil_of_mem_ancestors mem)]
  rw [lineAt_eq, lineAt_eq, labelAt, labelAt, nodeAt?_cons child, isFollowed_cons child below,
    ancestors_cons i below, List.flatMap_cons, List.flatMap_map, guides]
  simp only [List.append_assoc]

end Node

namespace Tree

/-- A node of the walk whose label is printable and has room behind its guides. -/
def Fits (entry : Nat × Node) : Prop :=
  Of PrintableAscii entry.2.label.toList ∧
    4 * entry.1 + entry.2.label.toList.length ≤ 200

instance (entry : Nat × Node) : Decidable (Fits entry) :=
  inferInstanceAs (Decidable (_ ∧ _))

theorem label_length_pos (n : Node) : 0 < n.label.toList.length := by
  simp only [Node.label, String.toList_append, List.length_append]
  exact Nat.lt_of_lt_of_le Nat.one_pos (Nat.le_add_right_of_le (Nat.le_add_left 1 _))

theorem labelLines_of_fits {depth : Nat} {n : Node} (fits : Fits (depth, n)) (pad : List Char)
    (last : Bool) :
    labelLines depth pad last n.label.toList = [pad ++ branchMark last ++ n.label.toList] := by
  obtain ⟨printable, room⟩ := fits
  have some := label_length_pos n
  dsimp only at room
  have deep : ¬ columns ≤ guideWidth * depth := by simp only [columns, guideWidth]; omega
  have short : n.label.toList.length ≤ columns - guideWidth * depth := by
    simp only [columns, guideWidth]; omega
  rw [labelLines, if_neg deep, wrap_of_fits printable short]
  rfl

mutual

theorem nodeLines_eq {n : Node} {i : Nat} (depth : Nat) (pad : List Char) :
    ∀ m : Node, n.dependencies[i]? = some m → (∀ entry ∈ Node.preorder depth m, Fits entry) →
      nodeLines depth pad (!n.isFollowed [i]) m =
        m.places.map fun place => pad ++ n.lineAt (i :: place)
  | ⟨version, replacement, license, dependencies, resolution⟩, child, fits => by
    obtain ⟨own, below⟩ := List.forall_mem_cons.mp fits
    have label := labelLines_of_fits own pad (!n.isFollowed [i])
    have children := childLines_eq ⟨version, replacement, license, dependencies, resolution⟩
      (depth + 1) (pad ++ guideMark (!n.isFollowed [i])) dependencies [] rfl below
    rw [Node.places, List.map_cons, Node.lineAt_singleton child, ← List.append_assoc]
    -- Below the node every line has the guide that its own mark stands for.
    refine (congrArg₂ (· ++ ·) label children).trans (congrArg _ ?_)
    refine List.map_congr_left fun place mem => ?_
    have deep : place ≠ [] := by
      obtain ⟨j, m, beyond, rfl, -, -⟩ := Node.mem_placesFrom.mp mem
      exact List.cons_ne_nil _ _
    rw [Node.lineAt_cons child deep, List.append_assoc]

theorem childLines_eq (n : Node) (depth : Nat) (pad : List Char) :
    ∀ ns before : List Node, n.dependencies = before ++ ns →
      (∀ entry ∈ Node.preorders depth ns, Fits entry) →
      childLines depth pad ns =
        (Node.placesFrom before.length ns).map fun place => pad ++ n.lineAt place
  | [], _, _, _ => rfl
  | m :: rest, before, split, fits => by
    obtain ⟨here, later⟩ := List.forall_mem_append.mp fits
    -- A child is counted by the siblings before it, and it is the last one when none follows.
    have child : n.dependencies[before.length]? = some m := by simp [split]
    have last : rest.isEmpty = !n.isFollowed [before.length] := by
      rw [Node.isFollowed_singleton, split]
      cases rest <;> simp
    have others := childLines_eq n depth pad rest (before ++ [m]) (by simp [split]) later
    rw [List.length_append, List.length_singleton] at others
    rw [childLines, Node.placesFrom, List.map_append, List.map_map, others, last,
      nodeLines_eq depth pad m child here]
    rfl

end

/-- A tree whose path and labels are printable and have room. -/
structure Legible (t : Tree) : Prop where
  root : Of PrintableAscii t.root.version.path.toList
  room : t.root.version.path.toList.length ≤ 200
  labels : ∀ entry ∈ t.walk, Fits entry

variable {t u : Tree}

/-- There is a line for the root and one for each place below it. -/
theorem lines_eq (legible : t.Legible) :
    t.lines = t.root.version.path.toList :: t.places.map t.root.lineAt := by
  have fits := legible.labels
  rw [walk_eq] at fits
  have room : t.root.version.path.toList.length ≤ columns := legible.room
  rw [lines, wrap_of_fits legible.root room,
    childLines_eq t.root 1 [] t.root.dependencies [] rfl fits]
  rfl

theorem onOneLine_of_legible (legible : t.Legible) : ∀ line ∈ t.lines, OnOneLine line := by
  have inside {s : List Char} (h : Of PrintableAscii s) : OnOneLine s := fun c hc =>
    (h c hc).isLineBreak_eq
  refine of_lines (by decide +kernel) (inside legible.root) fun n hn => ?_
  obtain ⟨entry, visited, rfl⟩ := List.mem_map.mp hn
  exact inside (legible.labels entry (walk_eq t ▸ visited)).1

/-! ### Reading a line -/

def isMark (c : Char) : Bool := c == '├' || c == '└'

/-- How deep the node of a line lies, by the guides in front of its mark, and the label behind it. -/
def reading (line : List Char) : Nat × List Char :=
  ((line.takeWhile (!isMark ·)).length / guideWidth + 1,
    (line.dropWhile (!isMark ·)).drop guideWidth)

theorem branchMark_eq (last : Bool) :
    branchMark last = (if last then '└' else '├') :: "── ".toList := by
  cases last <;> rfl

theorem not_isMark_guideMark (last : Bool) : ∀ c ∈ guideMark last, (!isMark c) = true :=
  List.all_eq_true.mp (by cases last <;> rfl)

theorem length_guideMark (last : Bool) : (guideMark last).length = guideWidth := by
  cases last <;> rfl

theorem reading_append {pad : List Char} (unmarked : ∀ c ∈ pad, (!isMark c) = true) (last : Bool)
    (label : List Char) :
    reading (pad ++ branchMark last ++ label) = (pad.length / guideWidth + 1, label) := by
  have marked : ¬ (!isMark (if last then '└' else '├')) = true := by cases last <;> decide
  rw [reading, branchMark_eq, List.append_assoc, List.cons_append,
    List.takeWhile_append_of_pos unmarked, List.dropWhile_append_of_pos unmarked,
    List.takeWhile_cons_of_neg (p := (!isMark ·)) marked,
    List.dropWhile_cons_of_neg (p := (!isMark ·)) marked, List.append_nil]
  rfl

/-- The depth and the label of a node are read off its line. -/
theorem reading_lineAt (n : Node) {place : List Nat} (below : place ≠ []) :
    reading (n.lineAt place) = (place.length, n.labelAt place) := by
  have unmarked : ∀ c ∈ (Node.ancestors place).flatMap fun above =>
      guideMark (!n.isFollowed above), (!isMark c) = true := by
    intro c hc
    obtain ⟨above, -, drawn⟩ := List.mem_flatMap.mp hc
    exact not_isMark_guideMark _ c drawn
  have width : ((Node.ancestors place).flatMap fun above =>
      guideMark (!n.isFollowed above)).length = (place.length - 1) * guideWidth := by
    simp only [List.length_flatMap, length_guideMark, List.map_const', List.sum_replicate_nat,
      Node.ancestors, List.length_map, List.length_range]
  have deep : 0 < place.length := List.length_pos_iff.mpr below
  rw [Node.lineAt_eq, reading_append unmarked, width, Nat.mul_div_cancel _ (by decide),
    Nat.sub_add_cancel deep]

/-- The lines are those of the nodes in the order of the walk. -/
theorem walk_visits (t : Tree) : t.walk.map (fun entry => (entry.1, some entry.2)) =
    t.places.map fun place => (place.length, t.root.nodeAt? place) := by
  have visited := Node.preorders_places 0 t.root t.root.dependencies [] rfl
  simp only [Nat.zero_add] at visited
  rwa [walk_eq]

/-- What the lines tell is how deep the nodes of the walk lie, and their labels. -/
theorem map_reading (t : Tree) : (t.places.map t.root.lineAt).map reading =
    t.walk.map fun entry => (entry.1, entry.2.label.toList) := by
  have labels := congrArg
    (List.map (Prod.map id fun n : Option Node => (n.map (·.label.toList)).getD [])) t.walk_visits
  rw [List.map_map, List.map_map] at labels
  refine (List.map_map.trans (List.map_congr_left fun place mem => ?_)).trans labels.symm
  exact reading_lineAt t.root (mem_places.mp mem).1

/-- Where all labels have room, the text of a tree has a line for its root and one for each node of the
walk, in its order. Trees of the same text have the same labels at the same depths. -/
theorem outline_of_legible (legible : t.Legible) :
    t.render.toList =
      (t.root.version.path.toList :: t.places.map t.root.lineAt).flatMap (· ++ ['\n']) ∧
    splitLines t.render.toList = t.root.version.path.toList :: t.places.map t.root.lineAt ∧
    t.walk.map (fun entry => (entry.1, some entry.2)) =
      t.places.map (fun place => (place.length, t.root.nodeAt? place)) ∧
    ∀ u : Tree, u.Legible → t.render = u.render →
      t.walk.map (fun entry => (entry.1, entry.2.label)) =
        u.walk.map fun entry => (entry.1, entry.2.label) := by
  have split {t : Tree} (legible : t.Legible) : splitLines t.render.toList =
      t.root.version.path.toList :: t.places.map t.root.lineAt := by
    rw [toList_render, splitLines_flatMap (onOneLine_of_legible legible), lines_eq legible]
  refine ⟨by rw [toList_render, lines_eq legible], split legible, t.walk_visits,
    fun u legible' same => ?_⟩
  have lines := congrArg (splitLines ·.toList) same
  rw [split legible, split legible'] at lines
  have told := congrArg (List.map reading) (List.cons.inj lines).2
  rw [map_reading, map_reading] at told
  simpa only [List.map_map, Function.comp_def, Prod.map_apply, id_eq, String.ofList_toList] using
    congrArg (List.map (Prod.map id String.ofList)) told

/-- A module of the first version, with what hangs on it. -/
private def branch (path : String) (resolution : Resolution) (dependencies : List Node) : Node :=
  ⟨⟨path, "v1"⟩, none, none, dependencies, resolution⟩

/-- Two branches, the first of which goes on below its second child. -/
def branching : Tree :=
  ⟨branch "m" .root [branch "a" .unlicensed [branch "b" .unexpanded [],
    branch "c" .unlicensed [branch "d" .cycle []]], branch "e" .unexpanded []]⟩

/-- The same with its deepest node one level up. -/
def raised : Tree :=
  ⟨branch "m" .root [branch "a" .unlicensed [branch "b" .unexpanded [],
    branch "c" .unlicensed [], branch "d" .cycle []], branch "e" .unexpanded []]⟩

theorem outline_of_legible_branching :
    branching.Legible ∧ raised.Legible ∧
    splitLines branching.render.toList = ["m", "├── a@v1 (unlicensed)", "│   ├── b@v1 (unexpanded)",
      "│   └── c@v1 (unlicensed)", "│       └── d@v1 (cycle)",
      "└── e@v1 (unexpanded)"].map String.toList ∧
    branching.render ≠ raised.render := by
  have fits : branching.Legible := ⟨by decide +kernel, by decide, by rw [walk_eq]; decide +kernel⟩
  have fits' : raised.Legible := ⟨by decide +kernel, by decide, by rw [walk_eq]; decide +kernel⟩
  obtain ⟨-, lines, -, told⟩ := outline_of_legible fits
  refine ⟨fits, fits', lines.trans (by decide), fun same => ?_⟩
  have walks := told raised fits' same
  rw [walk_eq, walk_eq] at walks
  revert walks
  decide

end Tree

end Attribution

import Attribution.Proofs.Text.Wrap
import Attribution.Proofs.Tree.Walk
import Attribution.Tree.Drawing

/-!
What a drawn tree is made of: the path of its root, the labels of its nodes, guides, and the ends of
its lines.
-/

namespace Attribution.Tree

open Text

variable {P : Char → Prop}

theorem toList_render (t : Tree) : t.render.toList = t.lines.flatMap (· ++ ['\n']) := by
  rw [render, String.toList_ofList]

/-- What the guides are drawn with. -/
def guides : List Char := ['├', '└', '─', '│', ' ']

theorem of_branchMark (drawn : Of P guides) (last : Bool) : Of P (branchMark last) :=
  drawn.subset (by cases last <;> decide)

theorem of_guideMark (drawn : Of P guides) (last : Bool) : Of P (guideMark last) :=
  drawn.subset (by cases last <;> decide)

theorem of_labelLines (drawn : Of P guides) {depth : Nat} {pad label : List Char} {last : Bool}
    (padded : Of P pad) (labeled : Of P label) :
    ∀ line ∈ labelLines depth pad last label, Of P line := by
  have space : P ' ' := drawn ' ' (by decide)
  unfold labelLines
  split
  · exact fun _ h => nomatch h
  · have lines : ∀ line ∈ wrap (columns - guideWidth * depth) label, Of P line :=
      of_wrap space labeled
    split
    next => exact fun _ h => nomatch h
    next first more found =>
      rw [found] at lines
      obtain ⟨first, more⟩ := List.forall_mem_cons.mp lines
      refine List.forall_mem_cons.mpr
        ⟨of_append (of_append padded (of_branchMark drawn last)) first, fun line h => ?_⟩
      obtain ⟨rest, member, rfl⟩ := List.mem_map.mp h
      exact of_append (of_append padded (of_guideMark drawn last)) (more rest member)

mutual

theorem of_nodeLines (drawn : Of P guides) {depth : Nat} {pad : List Char} {last : Bool}
    (padded : Of P pad) : ∀ n : Node, (∀ m ∈ Node.nodes [n], Of P m.label.toList) →
      ∀ line ∈ nodeLines depth pad last n, Of P line
  | ⟨version, replacement, license, dependencies, resolution⟩, labeled => by
    obtain ⟨own, below⟩ : _ ∧ _ := ⟨labeled _ (Node.mem_nodes_singleton.mpr (.inl rfl)),
      fun m hm => labeled m (Node.mem_nodes_singleton.mpr (.inr hm))⟩
    exact List.forall_mem_append.mpr ⟨of_labelLines drawn padded own,
      of_childLines drawn (of_append padded (of_guideMark drawn last)) dependencies below⟩

theorem of_childLines (drawn : Of P guides) {depth : Nat} {pad : List Char} (padded : Of P pad) :
    ∀ ns : List Node, (∀ m ∈ Node.nodes ns, Of P m.label.toList) →
      ∀ line ∈ childLines depth pad ns, Of P line
  | [], _ => fun _ h => nomatch h
  | n :: rest, labeled => by
    refine List.forall_mem_append.mpr ⟨of_nodeLines drawn padded n fun m hm => labeled m ?_,
      of_childLines drawn padded rest fun m hm => labeled m ?_⟩
    · obtain rfl | hm := Node.mem_nodes_singleton.mp hm
      · exact Node.mem_nodes_cons.mpr (.inl rfl)
      · exact Node.mem_nodes_cons.mpr (.inr (.inl hm))
    · exact Node.mem_nodes_cons.mpr (.inr (.inr hm))

end

/-- The lines of a tree have no characters but those of its names and of the guides. -/
theorem of_lines (drawn : Of P guides) {t : Tree} (root : Of P t.root.version.path.toList)
    (labeled : ∀ n ∈ Node.nodes t.root.dependencies, Of P n.label.toList) :
    ∀ line ∈ t.lines, Of P line :=
  List.forall_mem_append.mpr ⟨of_wrap (drawn ' ' (by decide)) root,
    of_childLines drawn of_nil _ labeled⟩

end Attribution.Tree

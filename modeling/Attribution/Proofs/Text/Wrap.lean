import Attribution.Proofs.Text.Split
import Attribution.Text.Wrap

/-!
What the lines of a laid out text are made of: its own characters, and spaces.
-/

namespace Attribution.Text

variable {P : Char → Prop} {s t line word : List Char} {words : List (List Char)} {room : Nat}

/-- A text of certain characters only. -/
def Of (P : Char → Prop) (s : List Char) : Prop := ∀ c ∈ s, P c

instance [DecidablePred P] : Decidable (Of P s) := List.decidableBAll P s

theorem of_nil : Of P [] := fun _ h => nomatch h

theorem of_append (first : Of P s) (next : Of P t) : Of P (s ++ t) :=
  List.forall_mem_append.mpr ⟨first, next⟩

theorem of_singleton {c : Char} (h : P c) : Of P [c] := List.forall_mem_singleton.mpr h

theorem Of.subset (h : Of P s) (sub : t ⊆ s) : Of P t := fun c hc => h c (sub hc)

theorem of_joinAtStops (space : P ' ') {parts : List (List Char)} (h : ∀ p ∈ parts, Of P p) :
    Of P (joinAtStops parts) := by
  fun_induction joinAtStops parts with
  | case1 => exact of_nil
  | case2 last => exact h last List.mem_cons_self
  | case3 part rest _ beyond fill ih =>
      obtain ⟨first, more⟩ := List.forall_mem_cons.mp h
      refine of_append (of_append first (List.forall_mem_cons.mpr ⟨space, fun c hc => ?_⟩)) (ih more)
      exact List.eq_of_mem_replicate hc ▸ space

theorem of_expandTabs (space : P ' ') (h : Of P s) : Of P (expandTabs s) :=
  of_joinAtStops space fun _ hp c hc => h c ((sublist_of_mem_splitBy hp).subset hc)

theorem of_wordsOf_go (h : Of P s) : ∀ w ∈ wordsOf.go s, Of P w := by
  fun_induction wordsOf.go s with
  | case1 => exact fun _ hw => nomatch hw
  | case2 c => exact List.forall_mem_singleton.mpr h
  | case3 c d rest none ih =>
      exact List.forall_mem_singleton.mpr (of_singleton (h c List.mem_cons_self))
  | case4 c d rest w ws found starts ih =>
      have below := ih fun e he => h e (List.mem_cons_of_mem _ he)
      rw [found] at below
      exact List.forall_mem_cons.mpr ⟨of_singleton (h c List.mem_cons_self), below⟩
  | case5 c d rest w ws found goes ih =>
      have below := ih fun e he => h e (List.mem_cons_of_mem _ he)
      rw [found] at below
      obtain ⟨first, more⟩ := List.forall_mem_cons.mp below
      exact List.forall_mem_cons.mpr
        ⟨List.forall_mem_cons.mpr ⟨h c List.mem_cons_self, first⟩, more⟩

theorem of_wordsOf (h : Of P s) : ∀ w ∈ wordsOf s, Of P w := by
  have words := of_wordsOf_go (h.subset (List.dropWhile_sublist isBlank).subset)
  unfold wordsOf
  extract_lets lead
  split
  next => exact fun _ hw => nomatch hw
  next w ws found =>
    rw [found] at words
    obtain ⟨first, more⟩ := List.forall_mem_cons.mp words
    exact List.forall_mem_cons.mpr
      ⟨of_append (h.subset (List.takeWhile_sublist isBlank).subset) first, more⟩

theorem of_clusters (h : Of P s) : ∀ k ∈ clusters s, Of P k.text := fun k hk c hc =>
  h c (flatMap_clusters s ▸ List.mem_flatMap.mpr ⟨k, hk, hc⟩)

theorem of_putFirst {pieces : List (List Char)} (first : Of P s) (more : ∀ p ∈ pieces, Of P p) :
    ∀ p ∈ chop.putFirst s pieces, Of P p := by
  cases pieces with
  | nil => exact List.forall_mem_singleton.mpr first
  | cons piece pieces =>
      obtain ⟨next, more⟩ := List.forall_mem_cons.mp more
      exact List.forall_mem_cons.mpr ⟨of_append first next, more⟩

theorem of_chop {used : Nat} {places : List Cluster} (h : ∀ k ∈ places, Of P k.text) :
    ∀ p ∈ chop room used places, Of P p := by
  fun_induction chop room used places with
  | case1 => exact List.forall_mem_singleton.mpr of_nil
  | case2 used k rest _ ih =>
      obtain ⟨first, more⟩ := List.forall_mem_cons.mp h
      exact List.forall_mem_cons.mpr ⟨of_nil, of_putFirst first (ih more)⟩
  | case3 used k rest _ ih =>
      obtain ⟨first, more⟩ := List.forall_mem_cons.mp h
      exact of_putFirst first (ih more)

theorem of_cutToWidth (space : P ' ') {places : List Cluster} (h : ∀ k ∈ places, Of P k.text) :
    Of P (cutToWidth room places) := by
  fun_induction cutToWidth room places with
  | case1 | case2 => exact of_nil
  | case3 k rest room _ _ ih =>
      obtain ⟨first, more⟩ := List.forall_mem_cons.mp h
      exact of_append first (ih more)
  | case4 => exact of_singleton space

/-- The lines that are being filled. -/
def Filling.lines (f : Filling) : List (List Char) := f.line :: f.done

theorem of_add {f : Filling} (h : ∀ line ∈ f.lines, Of P line) (next : Of P word) :
    ∀ line ∈ (f.add room word).lines, Of P line := by
  obtain ⟨last, done⟩ := List.forall_mem_cons.mp h
  unfold Filling.add
  extract_lets needed startsText pieces cut before
  have chopped : ∀ p ∈ pieces, Of P p := of_chop (of_clusters next)
  split
  · exact List.forall_mem_cons.mpr ⟨of_append last next, done⟩
  split
  · refine List.forall_mem_cons.mpr ⟨?_, List.forall_mem_append.mpr ⟨?_, ?_⟩⟩
    · show Of P (pieces.getLast?.getD [])
      cases found : pieces.getLast? with
      | none => exact of_nil
      | some piece => exact chopped piece (List.mem_of_getLast? found)
    · exact fun p hp => chopped p (List.dropLast_subset _ (List.mem_reverse.mp hp))
    · split
      · exact done
      · exact h
  split
  · exact List.forall_mem_cons.mpr ⟨next, h⟩
  · exact List.forall_mem_cons.mpr ⟨of_append last next, done⟩

theorem of_fitLine (space : P ' ') (h : Of P line) : Of P (fitLine room line) := by
  unfold fitLine
  extract_lets excess blanks line
  have taken : Of P line := h.subset (List.take_subset _ _)
  split
  · exact taken
  · exact of_cutToWidth space (of_clusters taken)

theorem of_foldl_add (h : ∀ w ∈ words, Of P w) {f : Filling} (start : ∀ line ∈ f.lines, Of P line) :
    ∀ line ∈ (words.foldl (Filling.add room) f).lines, Of P line := by
  induction words generalizing f with
  | nil => exact start
  | cons w words ih =>
      obtain ⟨first, more⟩ := List.forall_mem_cons.mp h
      exact ih more (of_add start first)

theorem of_wrapParagraph (space : P ' ') (h : Of P s) :
    ∀ line ∈ wrapParagraph room s, Of P line := by
  have expanded := of_expandTabs space h
  unfold wrapParagraph
  extract_lets text
  split
  next => exact List.forall_mem_singleton.mpr (of_fitLine space expanded)
  next =>
    have filled : ∀ line ∈ ((wordsOf text).foldl (Filling.add room) ⟨[], [], 0⟩).lines, Of P line :=
      of_foldl_add (of_wordsOf expanded) (List.forall_mem_singleton.mpr of_nil)
    intro line hl
    obtain ⟨full, member, rfl⟩ := List.mem_map.mp hl
    exact of_fitLine space (filled full (List.mem_reverse.mp member))

/-- The lines of a text in any number of columns. -/
theorem of_wrap (space : P ' ') (h : Of P s) : ∀ line ∈ wrap room s, Of P line := by
  intro line hl
  obtain ⟨paragraph, member, within⟩ := List.mem_flatMap.mp hl
  refine of_wrapParagraph space (fun c hc => ?_) line within
  exact h c (List.mem_filter.mp ((sublist_of_mem_splitBy member).subset hc)).1

end Attribution.Text

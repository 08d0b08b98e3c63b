import Attribution.Text.Split

/-!
Texts cut at separators: each piece is a part of the text, and a separator divides what stands before
it from what follows. What follows a start is found just where the text has it.
-/

namespace Attribution.Text

variable {sep : Char → Bool} {s rest piece : List Char} {c : Char}

theorem sublist_of_mem_consFirst {pieces : List (List Char)}
    (h : ∀ p ∈ pieces, p.Sublist s) (member : piece ∈ consFirst c pieces) :
    piece.Sublist (c :: s) := by
  cases pieces with
  | nil =>
      obtain rfl := List.mem_singleton.mp member
      exact (List.nil_sublist s).cons_cons c
  | cons first pieces =>
      obtain ⟨start, more⟩ := List.forall_mem_cons.mp h
      obtain rfl | member := List.mem_cons.mp member
      · exact start.cons_cons c
      · exact (more piece member).cons c

/-- Nothing is put into the pieces. -/
theorem sublist_of_mem_splitBy (h : piece ∈ splitBy sep s) : piece.Sublist s := by
  induction s generalizing piece with
  | nil =>
      obtain rfl := List.mem_singleton.mp h
      exact List.Sublist.slnil
  | cons c s ih =>
      unfold splitBy at h
      split at h
      · obtain rfl | h := List.mem_cons.mp h
        · exact List.nil_sublist _
        · exact (ih h).cons c
      · exact sublist_of_mem_consFirst (fun p hp => ih hp) h

theorem splitBy_ne_nil : splitBy sep s ≠ [] := by
  cases s with
  | nil => simp [splitBy]
  | cons c s =>
      unfold splitBy
      split
      · simp
      · cases splitBy sep s <;> simp [consFirst]

theorem consFirst_append {pieces more : List (List Char)} (h : pieces ≠ []) :
    consFirst c (pieces ++ more) = consFirst c pieces ++ more := by
  cases pieces with
  | nil => exact absurd rfl h
  | cons piece pieces => rfl

theorem splitBy_append (h : sep c = true) :
    splitBy sep (s ++ c :: rest) = splitBy sep s ++ splitBy sep rest := by
  induction s with
  | nil => simp [splitBy, h]
  | cons d s ih =>
      rw [List.cons_append, splitBy, splitBy, ih]
      split
      · rfl
      · exact consFirst_append splitBy_ne_nil

/-- A text without separators is one piece. -/
theorem splitBy_eq_singleton (h : ∀ c ∈ s, sep c = false) : splitBy sep s = [s] := by
  induction s with
  | nil => rfl
  | cons c s ih =>
      obtain ⟨first, rest⟩ := List.forall_mem_cons.mp h
      rw [splitBy, ih rest, first]
      rfl

/-- What stands before the first separator and what follows it are known. -/
theorem append_cons_inj {t more : List Char} (hs : c ∉ s) (ht : c ∉ t)
    (same : s ++ c :: rest = t ++ c :: more) : s = t ∧ rest = more := by
  have before {u : List Char} (hu : c ∉ u) (after : List Char) :
      (u ++ c :: after).takeWhile (· != c) = u := by
    have plain : ∀ d ∈ u, (d != c) = true := fun d mem => bne_iff_ne.2 fun h => hu (h ▸ mem)
    rw [List.takeWhile_append_of_pos plain, List.takeWhile_cons_of_neg (by simp), List.append_nil]
  have start := congrArg (List.takeWhile (· != c)) same
  rw [before hs, before ht] at start
  subst start
  exact ⟨rfl, (List.cons.inj (List.append_cancel_left same)).2⟩

/-- So are those around the last separator. -/
theorem append_cons_inj_last {t more : List Char} (hs : c ∉ rest) (ht : c ∉ more)
    (same : s ++ c :: rest = t ++ c :: more) : s = t ∧ rest = more := by
  have back := congrArg List.reverse same
  simp only [List.reverse_append, List.reverse_cons, List.append_assoc, List.singleton_append] at back
  obtain ⟨after, before⟩ :=
    append_cons_inj (mt List.mem_reverse.mp hs) (mt List.mem_reverse.mp ht) back
  exact ⟨List.reverse_inj.mp before, List.reverse_inj.mp after⟩

theorem after?_eq_some_iff {start : List Char} : after? start s = some rest ↔ s = start ++ rest := by
  unfold after?
  refine ⟨fun found => ?_, ?_⟩
  · split at found
    next below =>
      obtain ⟨more, whole⟩ := List.isPrefixOf_iff_prefix.mp below
      rw [← whole, List.drop_left] at found
      rw [← whole, Option.some.inj found]
    next => cases found
  · rintro rfl
    rw [if_pos (List.isPrefixOf_iff_prefix.mpr (List.prefix_append start rest)), List.drop_left]

end Attribution.Text

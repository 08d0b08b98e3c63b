import Attribution.Text.Blank
import Mathlib.Data.List.DropRight

/-!
Squeezed and trimmed texts. A run of blanks counts as one blank wherever it stands, and not at all
at either end. Both operations lead to texts that they leave as they are, and they commute with a
change of letters that leaves blanks alone.
-/

namespace Attribution.Text

/-- A text of blanks only. -/
def Blank (s : List Char) : Prop := ∀ c ∈ s, isBlank c = true

instance (s : List Char) : Decidable (Blank s) := List.decidableBAll _ s

variable {s t gap : List Char} {c : Char}

/-- The blanks, by their numbers. -/
def blankCodes : List Nat :=
  List.range' 0x9 5 ++ List.range' 0x1c 5 ++ [0x85, 0xa0, 0x1680] ++ List.range' 0x2000 11 ++
    [0x2028, 0x2029, 0x202f, 0x205f, 0x3000]

theorem mem_blankCodes (blank : isBlank c = true) : c.toNat ∈ blankCodes := by
  simp only [isBlank, Bool.or_eq_true, Bool.and_eq_true, decide_eq_true_eq, beq_iff_eq] at blank
  simp only [blankCodes, List.mem_append, List.mem_range'_1, List.mem_cons, List.not_mem_nil,
    or_false]
  omega

/-- A text with a space in front, unless it starts with one. -/
def spaced : List Char → List Char
  | ' ' :: s => ' ' :: s
  | s => ' ' :: s

theorem spaced_cons (solid : c ≠ ' ') (s : List Char) : spaced (c :: s) = ' ' :: c :: s := by
  unfold spaced
  split
  next same => exact absurd (List.cons.inj same).1 solid
  next => rfl

theorem spaced_spaced (s : List Char) : spaced (spaced s) = spaced s := by
  cases s with
  | nil => rfl
  | cons c s =>
      by_cases space : c = ' '
      · subst space
        rfl
      · rw [spaced_cons space]
        rfl

theorem spaced_append (some : s ≠ []) (t : List Char) : spaced (s ++ t) = spaced s ++ t := by
  cases s with
  | nil => exact absurd rfl some
  | cons c s =>
      by_cases space : c = ' '
      · subst space
        rfl
      · rw [List.cons_append, spaced_cons space, spaced_cons space]
        rfl

theorem exists_squeeze_cons (blank : isBlank c = true) (s : List Char) :
    ∃ rest, squeeze (c :: s) = ' ' :: rest := by
  induction s generalizing c with
  | nil => exact ⟨[], by rw [squeeze, if_pos blank]⟩
  | cons d s ih =>
      rw [squeeze, if_pos blank]
      split
      next next => exact ih next
      next => exact ⟨_, rfl⟩

/-- Squeezing goes letter by letter: what a blank does depends only on the squeezed rest. -/
theorem squeeze_cons (c : Char) (s : List Char) :
    squeeze (c :: s) = if isBlank c then spaced (squeeze s) else c :: squeeze s := by
  cases s with
  | nil => rfl
  | cons d s =>
      rw [squeeze]
      by_cases blank : isBlank c
      · rw [if_pos blank, if_pos blank]
        by_cases next : isBlank d
        · obtain ⟨rest, starts⟩ := exists_squeeze_cons next s
          rw [if_pos next, starts]
          rfl
        · have starts : squeeze (d :: s) = d :: (squeeze (d :: s)).tail := by
            cases s <;> simp [squeeze, next]
          have solid : d ≠ ' ' := by
            rintro rfl
            exact next rfl
          rw [if_neg next, starts, spaced_cons solid]
      · rw [if_neg blank, if_neg blank]

theorem squeeze_append_congr (same : squeeze s = squeeze t) (before : List Char) :
    squeeze (before ++ s) = squeeze (before ++ t) := by
  induction before with
  | nil => exact same
  | cons c before ih => rw [List.cons_append, List.cons_append, squeeze_cons, squeeze_cons, ih]

/-- A run of blanks is squeezed to one space. -/
theorem squeeze_blank (blank : Blank gap) (some : gap ≠ []) (s : List Char) :
    squeeze (gap ++ s) = spaced (squeeze s) := by
  induction gap with
  | nil => exact absurd rfl some
  | cons c gap ih =>
      obtain ⟨first, rest⟩ := List.forall_mem_cons.mp blank
      rw [List.cons_append, squeeze_cons, if_pos first]
      by_cases last : gap = []
      · rw [last, List.nil_append]
      · rw [ih rest last, spaced_spaced]

theorem trim_cons (blank : isBlank c = true) (s : List Char) : trim (c :: s) = trim s := by
  rw [trim, List.dropWhile_cons_of_pos blank, trim]

theorem trim_spaced (s : List Char) : trim (spaced s) = trim s := by
  cases s with
  | nil => rfl
  | cons c s =>
      by_cases space : c = ' '
      · subst space
        rfl
      · rw [spaced_cons space, trim_cons rfl]

theorem trim_append (blank : isBlank c = true) (s : List Char) : trim (s ++ [c]) = trim s := by
  simp only [trim, dropEndWhile, List.dropWhile_append]
  split
  next nothing => simp [List.isEmpty_iff.mp nothing, blank]
  next => rw [List.reverse_append, List.reverse_singleton, List.singleton_append,
    List.dropWhile_cons_of_pos blank]

theorem trim_squeeze_front (blank : Blank gap) (s : List Char) :
    trim (squeeze (gap ++ s)) = trim (squeeze s) := by
  by_cases none : gap = []
  · rw [none, List.nil_append]
  · rw [squeeze_blank blank none, trim_spaced]

/-- Blanks at the end leave one space at most. -/
theorem squeeze_back (blank : Blank gap) (s : List Char) :
    squeeze (s ++ gap) = squeeze s ∨ squeeze (s ++ gap) = squeeze s ++ [' '] := by
  induction s with
  | nil =>
      by_cases none : gap = []
      · exact .inl (by rw [none, List.append_nil])
      · have run := squeeze_blank blank none []
        rw [List.append_nil] at run
        exact .inr run
  | cons c s ih =>
      rw [List.cons_append, squeeze_cons, squeeze_cons]
      split
      next =>
        obtain same | more := ih
        · exact .inl (congrArg spaced same)
        · rw [more]
          by_cases none : squeeze s = []
          · exact .inl (by rw [none]; rfl)
          · exact .inr (spaced_append none [' '])
      next => exact ih.imp (congrArg (c :: ·)) (congrArg (c :: ·))

theorem trim_squeeze_back (blank : Blank gap) (s : List Char) :
    trim (squeeze (s ++ gap)) = trim (squeeze s) := by
  obtain same | more := squeeze_back blank s
  · rw [same]
  · rw [more, trim_append rfl]

/-- A text whose blanks are spaces, none of which follows another. -/
structure Squeezed (s : List Char) : Prop where
  spaces : ∀ c ∈ s, isBlank c = true → c = ' '
  single : ¬ [' ', ' '] <:+: s

theorem mem_spaced (mem : c ∈ spaced s) : c = ' ' ∨ c ∈ s := by
  unfold spaced at mem
  split at mem
  · exact .inr mem
  · exact List.mem_cons.mp mem

theorem mem_squeeze (mem : c ∈ squeeze s) : c = ' ' ∨ c ∈ s := by
  induction s with
  | nil => exact .inr mem
  | cons d s ih =>
      rw [squeeze_cons] at mem
      split at mem
      · exact (mem_spaced mem).elim .inl fun later => (ih later).imp_right (List.mem_cons_of_mem d)
      · obtain rfl | later := List.mem_cons.mp mem
        · exact .inr List.mem_cons_self
        · exact (ih later).imp_right (List.mem_cons_of_mem d)

namespace Squeezed

theorem cons (h : Squeezed s) (solid : isBlank c = false) : Squeezed (c :: s) where
  spaces := by
    refine List.forall_mem_cons.mpr ⟨fun blank => ?_, h.spaces⟩
    rw [solid] at blank
    cases blank
  single := by
    intro double
    obtain start | later := List.infix_cons_iff.mp double
    · obtain ⟨rfl, -⟩ := List.cons_prefix_cons.mp start
      cases solid
    · exact h.single later

theorem spaced (h : Squeezed s) : Squeezed (spaced s) := by
  unfold Text.spaced
  split
  · exact h
  next other =>
    refine ⟨List.forall_mem_cons.mpr ⟨fun _ => rfl, h.spaces⟩, ?_⟩
    intro double
    obtain start | later := List.infix_cons_iff.mp double
    · obtain ⟨rest, rfl⟩ := (List.cons_prefix_cons.mp start).2
      exact other _ rfl
    · exact h.single later

theorem of_isInfix (h : Squeezed t) (inside : s <:+: t) : Squeezed s where
  spaces c mem := h.spaces c (inside.subset mem)
  single double := h.single (double.trans inside)

/-- A squeezed text that goes on after a space does so with something else. -/
theorem spaced_eq (h : Squeezed (' ' :: s)) : Text.spaced s = ' ' :: s := by
  cases s with
  | nil => rfl
  | cons c s =>
      refine spaced_cons ?_ s
      rintro rfl
      exact h.single ⟨[], s, rfl⟩

end Squeezed

theorem squeezed_squeeze (s : List Char) : Squeezed (squeeze s) := by
  induction s with
  | nil =>
      refine ⟨List.forall_mem_nil _, ?_⟩
      intro double
      cases List.infix_nil.mp double
  | cons c s ih =>
      rw [squeeze_cons]
      split
      next => exact ih.spaced
      next solid => exact ih.cons (Bool.eq_false_iff.mpr solid)

theorem squeeze_of_squeezed (h : Squeezed s) : squeeze s = s := by
  induction s with
  | nil => rfl
  | cons c s ih =>
      rw [squeeze_cons, ih (h.of_isInfix (List.suffix_cons c s).isInfix)]
      split
      next blank =>
        obtain rfl := h.spaces c List.mem_cons_self blank
        exact h.spaced_eq
      next => rfl

theorem mem_dropWhile {α : Type} {p : α → Bool} {a : α} {s : List α} (mem : a ∈ s)
    (stays : p a = false) : a ∈ s.dropWhile p := by
  rw [← List.takeWhile_append_dropWhile (p := p) (l := s), List.mem_append] at mem
  refine mem.resolve_left fun taken => ?_
  rw [List.all_eq_true.mp List.all_takeWhile a taken] at stays
  cases stays

/-- What is not blank is not trimmed away. -/
theorem mem_trim (mem : c ∈ s) (solid : isBlank c = false) : c ∈ trim s := by
  unfold trim dropEndWhile
  rw [List.mem_reverse]
  exact mem_dropWhile (List.mem_reverse.mpr (mem_dropWhile mem solid)) solid

theorem blank_of_trim (nothing : trim s = []) : Blank s := by
  intro c mem
  cases solid : isBlank c with
  | true => rfl
  | false => exact absurd (nothing ▸ mem_trim mem solid) List.not_mem_nil

/-- A text that neither starts nor ends with a blank. -/
structure Trimmed (s : List Char) : Prop where
  front : ∀ c ∈ s.head?, isBlank c = false
  back : ∀ c ∈ s.getLast?, isBlank c = false

theorem trim_isInfix (s : List Char) : trim s <:+: s :=
  (List.rdropWhile_prefix isBlank _).isInfix.trans (List.dropWhile_suffix isBlank).isInfix

theorem trimmed_trim (s : List Char) : Trimmed (trim s) where
  front c first := by
    obtain ⟨tail, whole⟩ := List.rdropWhile_prefix isBlank (s.dropWhile isBlank)
    have kept : c ∈ (s.dropWhile isBlank).head? :=
      whole ▸ List.mem_head?_append_of_mem_head? first
    have stopped := List.head?_dropWhile_not isBlank s
    rwa [kept] at stopped
  back c last := by
    obtain ⟨some, rfl⟩ := List.mem_getLast?_eq_getLast last
    exact Bool.eq_false_iff.mpr (List.rdropWhile_last_not isBlank (s.dropWhile isBlank) some)

theorem trim_of_trimmed (h : Trimmed s) : trim s = s := by
  have front : s.dropWhile isBlank = s := by
    cases s with
    | nil => rfl
    | cons c s => exact List.dropWhile_cons_of_neg (Bool.eq_false_iff.mp (h.front c rfl))
  rw [trim, front]
  refine List.rdropWhile_eq_self_iff.mpr fun some => Bool.eq_false_iff.mp ?_
  exact h.back _ (List.getLast?_eq_some_getLast some)

section Map

variable {f : Char → Char}

theorem spaced_map (space : ∀ c, f c = ' ' ↔ c = ' ') (s : List Char) :
    spaced (s.map f) = (spaced s).map f := by
  have same : f ' ' = ' ' := (space ' ').mpr rfl
  cases s with
  | nil => simp [spaced, same]
  | cons c s =>
      by_cases here : c = ' '
      · simp [here, same, spaced]
      · rw [List.map_cons, spaced_cons (mt (space c).mp here), spaced_cons here]
        simp [same]

theorem squeeze_map (space : ∀ c, f c = ' ' ↔ c = ' ') (blank : ∀ c, isBlank (f c) = isBlank c)
    (s : List Char) : squeeze (s.map f) = (squeeze s).map f := by
  induction s with
  | nil => rfl
  | cons c s ih =>
      rw [List.map_cons, squeeze_cons, squeeze_cons, blank, ih, spaced_map space]
      split <;> rfl

theorem trim_map (blank : ∀ c, isBlank (f c) = isBlank c) (s : List Char) :
    trim (s.map f) = (trim s).map f := by
  have test : isBlank ∘ f = isBlank := funext blank
  simp only [trim, dropEndWhile, List.dropWhile_map, test, ← List.map_reverse]

end Map

end Attribution.Text

import Attribution.Proofs.Text.Wrap
import Mathlib.Data.List.DropRight

/-!
A printable text that fits its room is laid out as one line, and nothing of it is changed.
-/

namespace Attribution.Text

variable {s word : List Char} {words : List (List Char)} {c : Char} {room : Nat}

/-- The letters, digits and marks of ASCII, and the space. -/
def PrintableAscii (c : Char) : Prop := 0x20 ≤ c.toNat ∧ c.toNat < 0x7f

instance : DecidablePred PrintableAscii := fun c =>
  inferInstanceAs (Decidable (0x20 ≤ c.toNat ∧ c.toNat < 0x7f))

namespace PrintableAscii

theorem ne (h : PrintableAscii c) {d : Char} (other : ¬ PrintableAscii d) : c ≠ d :=
  fun same => other (same ▸ h)

theorem charWidth_eq (h : PrintableAscii c) : charWidth c = 1 :=
  if_pos (by simp only [h.1, h.2, decide_true, Bool.and_self])

theorem isDroppedControl_eq (h : PrintableAscii c) : isDroppedControl c = false := by
  have other {d : Char} (control : ¬ PrintableAscii d) : decide (c = d) = false :=
    decide_eq_false (h.ne control)
  unfold isDroppedControl
  rw [other (by decide), other (by decide), other (by decide), other (by decide), other (by decide)]
  rfl

theorem isLineBreak_eq (h : PrintableAscii c) : isLineBreak c = false := by
  obtain ⟨low, high⟩ := h
  simp only [isLineBreak, Bool.or_eq_false_iff, Bool.and_eq_false_iff, decide_eq_false_iff_not,
    beq_eq_false_iff_ne]
  omega

end PrintableAscii

/-- Each character takes one column. -/
theorem widthAfter_of_printable (h : Of PrintableAscii s) (widens : Bool) :
    widthAfter widens s = s.length := by
  induction s generalizing widens with
  | nil => rfl
  | cons c s ih =>
      obtain ⟨first, rest⟩ := List.forall_mem_cons.mp h
      have alone : c ≠ joiner := first.ne (by decide)
      have plain : c ≠ pictureSelector := first.ne (by decide)
      cases s with
      | nil => rw [widthAfter, if_neg alone, if_neg plain, first.charWidth_eq, List.length_singleton]
      | cons d s =>
          rw [widthAfter, if_neg alone, if_neg plain, first.charWidth_eq, ih rest,
            List.length_cons (a := c), Nat.add_comm]

theorem width_of_printable (h : Of PrintableAscii s) : width s = s.length :=
  widthAfter_of_printable h false

theorem expandTabs_of_printable (h : Of PrintableAscii s) : expandTabs s = s := by
  have whole : splitBy (· == '\t') s = [s] :=
    splitBy_eq_singleton fun c hc => beq_eq_false_iff_ne.mpr ((h c hc).ne (by decide))
  rw [expandTabs, whole, joinAtStops]

theorem flatten_wordsOf_go (s : List Char) : (wordsOf.go s).flatten = s := by
  fun_induction wordsOf.go s with
  | case1 | case2 => rfl
  | case3 c d rest nothing ih =>
      rw [nothing] at ih
      cases ih
  | case4 c d rest w ws found starts ih =>
      rw [found, List.flatten_cons] at ih
      rw [List.flatten_cons, List.flatten_cons, ih, List.singleton_append]
  | case5 c d rest w ws found goes ih =>
      rw [found, List.flatten_cons] at ih
      rw [List.flatten_cons, List.cons_append, ih]

/-- The words of a text make up the text, unless there are none. -/
theorem flatten_wordsOf (s : List Char) : wordsOf s = [] ∨ (wordsOf s).flatten = s := by
  have words := flatten_wordsOf_go (s.dropWhile isBlank)
  unfold wordsOf
  extract_lets lead
  split
  next => exact .inl rfl
  next w ws found =>
    rw [found, List.flatten_cons] at words
    refine .inr ?_
    rw [List.flatten_cons, List.append_assoc, words]
    exact List.takeWhile_append_dropWhile

/-- A word that fits behind what stands on a line is put there. -/
theorem add_of_fits (h : Of PrintableAscii word) {f : Filling} (fits : f.used + word.length ≤ room) :
    f.add room word = ⟨f.done, f.line ++ word, f.used + word.length⟩ := by
  have solid : dropEndWhile isBlank word <+: word := List.rdropWhile_prefix _ _
  have needed : width (dropEndWhile isBlank word) ≤ word.length := by
    rw [width_of_printable (h.subset solid.subset)]
    exact solid.length_le
  rw [Filling.add, if_pos (by omega), width_of_printable h]

theorem foldl_add_of_fits (h : ∀ w ∈ words, Of PrintableAscii w) {f : Filling}
    (fits : f.used + words.flatten.length ≤ room) :
    words.foldl (Filling.add room) f =
      ⟨f.done, f.line ++ words.flatten, f.used + words.flatten.length⟩ := by
  induction words generalizing f with
  | nil => rw [List.foldl_nil, List.flatten_nil, List.append_nil, List.length_nil, Nat.add_zero]
  | cons w words ih =>
      obtain ⟨first, more⟩ := List.forall_mem_cons.mp h
      rw [List.flatten_cons, List.length_append, ← Nat.add_assoc] at fits
      rw [List.foldl_cons, add_of_fits first (Nat.le_of_add_right_le fits), ih more fits,
        List.flatten_cons, List.length_append, List.append_assoc, Nat.add_assoc]

theorem fitLine_of_fits (h : Of PrintableAscii s) (fits : s.length ≤ room) : fitLine room s = s := by
  have taken : s.take (s.length - min (s.length - room) (s.reverse.takeWhile isBlank).length) = s := by
    rw [Nat.sub_eq_zero_of_le fits, Nat.zero_min, Nat.sub_zero, List.take_length]
  unfold fitLine
  extract_lets excess blanks line
  rw [show line = s from taken, if_pos (by rwa [width_of_printable h])]

theorem wrapParagraph_of_fits (h : Of PrintableAscii s) (fits : s.length ≤ room) :
    wrapParagraph room s = [s] := by
  unfold wrapParagraph
  rw [expandTabs_of_printable h]
  extract_lets text
  split
  next => rw [fitLine_of_fits h fits]
  next some =>
    have whole : (wordsOf s).flatten = s := (flatten_wordsOf s).resolve_left some
    have filled : (wordsOf s).foldl (Filling.add room) ⟨[], [], 0⟩ = ⟨[], s, s.length⟩ := by
      rw [foldl_add_of_fits (of_wordsOf h) (by rwa [whole, Nat.zero_add]), whole, List.nil_append,
        Nat.zero_add]
    show List.map (fitLine room) (Filling.lines _).reverse = [s]
    rw [filled]
    exact congrArg ([·]) (fitLine_of_fits h fits)

/-- A printable text that fits is one line. -/
theorem wrap_of_fits (h : Of PrintableAscii s) (fits : s.length ≤ room) : wrap room s = [s] := by
  have kept : s.filter (!isDroppedControl ·) = s :=
    List.filter_eq_self.mpr fun c hc => by rw [(h c hc).isDroppedControl_eq]; rfl
  have whole : paragraphs s = [s] :=
    splitBy_eq_singleton fun c hc => beq_eq_false_iff_ne.mpr ((h c hc).ne (by decide))
  rw [wrap, kept, whole, List.flatMap_singleton, wrapParagraph_of_fits h fits]

end Attribution.Text

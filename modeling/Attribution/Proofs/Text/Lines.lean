import Attribution.Text.Split

/-!
How a text is cut into lines where it was put together from lines and line ends. Line ends of every
kind may be mixed; only a carriage return takes in a line feed that happens to follow it.
-/

namespace Attribution.Text

/-- What ends a line: one character, or a carriage return with a line feed. -/
inductive LineEnd where
  | single (c : Char) (ends : isLineBreak c = true)
  | crlf

def LineEnd.text : LineEnd → List Char
  | single c _ => [c]
  | crlf => ['\r', '\n']

/-- A text that lies on one line. -/
def OnOneLine (s : List Char) : Prop := ∀ c ∈ s, isLineBreak c = false

instance (s : List Char) : Decidable (OnOneLine s) :=
  List.decidableBAll _ s

theorem OnOneLine.nil : OnOneLine [] := List.forall_mem_nil _

theorem OnOneLine.cons {c : Char} {s : List Char} (first : isLineBreak c = false)
    (rest : OnOneLine s) : OnOneLine (c :: s) := List.forall_mem_cons.2 ⟨first, rest⟩

theorem OnOneLine.append {s t : List Char} (left : OnOneLine s) (right : OnOneLine t) :
    OnOneLine (s ++ t) := List.forall_mem_append.2 ⟨left, right⟩

theorem splitLines_cons {c : Char} (inside : isLineBreak c = false) (rest : List Char) :
    splitLines (c :: rest) = consFirst c (splitLines rest) := by
  have noReturn : c ≠ '\r' := by rintro rfl; exact absurd inside (by decide)
  rw [splitLines.eq_3 c rest fun _ h => absurd h noReturn, inside]
  rfl

theorem splitLines_single {c : Char} (ends : isLineBreak c = true) {rest : List Char}
    (apart : c = '\r' → ∀ after, rest ≠ '\n' :: after) :
    splitLines (c :: rest) = [] :: splitLines rest := by
  rw [splitLines.eq_3 c rest fun after h => apart h after, if_pos ends]

/-- What stands before the first line end is the first line. -/
theorem splitLines_append {line s : List Char} {lines : List (List Char)} (whole : OnOneLine line)
    (h : splitLines s = [] :: lines) : splitLines (line ++ s) = line :: lines := by
  induction line with
  | nil => exact h
  | cons c line ih =>
      rw [List.cons_append, splitLines_cons (whole c List.mem_cons_self),
        ih fun d hd => whole d (List.mem_cons_of_mem c hd)]
      rfl

/-- A text without line ends is one line, unless there is nothing in it. -/
theorem splitLines_of_onOneLine {line : List Char} (whole : OnOneLine line) (some : line ≠ []) :
    splitLines line = [line] := by
  induction line with
  | nil => exact absurd rfl some
  | cons c line ih =>
      rw [splitLines_cons (whole c List.mem_cons_self)]
      by_cases last : line = []
      · rw [last]
        rfl
      · rw [ih (fun d hd => whole d (List.mem_cons_of_mem c hd)) last]
        rfl

/-- A line feed after a carriage return is no line of its own; every other text goes on after a line
end as it would alone. -/
theorem splitLines_lineEnd {line : List Char} (whole : OnOneLine line) (e : LineEnd)
    (rest : List Char) :
    splitLines (line ++ (e.text ++ rest)) = line :: splitLines rest ∨
      ∃ after, rest = '\n' :: after ∧
        splitLines (line ++ (e.text ++ rest)) = line :: splitLines after := by
  cases e with
  | crlf => exact .inl (splitLines_append whole (splitLines.eq_2 rest))
  | single c ends =>
      by_cases merged : c = '\r' ∧ ∃ after, rest = '\n' :: after
      · obtain ⟨rfl, after, rfl⟩ := merged
        exact .inr ⟨after, rfl, splitLines_append whole (splitLines.eq_2 after)⟩
      · refine .inl (splitLines_append whole (splitLines_single ends fun hc after hr => ?_))
        exact merged ⟨hc, after, hr⟩

theorem splitLines_newline (rest : List Char) :
    splitLines ('\n' :: rest) = [] :: splitLines rest :=
  splitLines_single rfl fun h => absurd h (by decide)

/-- Lines that were each ended by a line feed are the lines of the text. -/
theorem splitLines_flatMap {lines : List (List Char)} (whole : ∀ line ∈ lines, OnOneLine line) :
    splitLines (lines.flatMap (· ++ ['\n'])) = lines := by
  induction lines with
  | nil => rfl
  | cons line lines ih =>
      obtain ⟨first, more⟩ := List.forall_mem_cons.mp whole
      rw [List.flatMap_cons, List.append_assoc, List.singleton_append,
        splitLines_append first (splitLines_newline _), ih more]

end Attribution.Text

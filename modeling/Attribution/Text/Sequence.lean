/-!
Control sequences, with which a text steers a terminal: an escape character, an opening bracket,
parameters and a letter.
-/

namespace Attribution.Text

/-- Whether a character may stand between the bracket and the letter of a control sequence. -/
def isParameter (c : Char) : Bool := c.isDigit || c = ';' || c = '?'

/-- What follows a control sequence, of which the escape character and the bracket are gone. -/
def afterSequence? (s : List Char) : Option (List Char) :=
  match s.dropWhile isParameter with
  | [] => none
  | c :: rest => if c.isAlpha then some rest else none

theorem afterSequence?_length {s rest : List Char} (h : afterSequence? s = some rest) :
    rest.length < s.length := by
  unfold afterSequence? at h
  have := (List.dropWhile_suffix isParameter (l := s)).length_le
  split at h
  · cases h
  · rename_i heq
    rw [heq] at this
    split at h
    · cases h
      simp only [List.length_cons] at this; omega
    · cases h

/-- The text without control sequences. -/
def dropSequences : List Char → List Char
  | [] => []
  | '\x1b' :: '[' :: rest =>
    match _h : afterSequence? rest with
    | some after => dropSequences after
    | none => '\x1b' :: '[' :: dropSequences rest
  | c :: rest => c :: dropSequences rest
termination_by s => s.length
decreasing_by
  · have := afterSequence?_length _h
    simp only [List.length_cons]; omega
  · simp only [List.length_cons]; omega
  · simp

end Attribution.Text

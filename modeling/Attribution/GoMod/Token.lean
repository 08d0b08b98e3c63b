import Attribution.Text.Blank
import Attribution.Text.Split

/-!
The words of one line of a go.mod file. A word is quoted, or it runs to the next blank; a comment
ends the line.
-/

namespace Attribution.GoMod

open Attribution.Text

/-- What stands before the closing double quote, and what follows it; a backslash keeps the
character after it from closing the string. -/
def closeDouble : List Char → Option (List Char × List Char)
  | [] => none
  | ['\\'] => none
  | '"' :: rest => some ([], rest)
  | '\\' :: c :: rest => (closeDouble rest).map fun (body, rest) => ('\\' :: c :: body, rest)
  | c :: rest => (closeDouble rest).map fun (body, rest) => (c :: body, rest)

/-- What stands before the closing back quote, and what follows it. -/
def closeBack : List Char → Option (List Char × List Char)
  | [] => none
  | '`' :: rest => some ([], rest)
  | c :: rest => (closeBack rest).map fun (body, rest) => (c :: body, rest)

theorem closeDouble_length {s body rest : List Char} (h : closeDouble s = some (body, rest)) :
    rest.length < s.length := by
  fun_induction closeDouble s generalizing body rest with
  | case1 => cases h
  | case2 => cases h
  | case3 r => cases h; simp
  | case4 c r ih =>
    obtain ⟨⟨b, t⟩, hb, he⟩ := Option.map_eq_some_iff.1 h
    cases he
    have := ih hb
    simp only [List.length_cons]; omega
  | case5 c r _ _ _ ih =>
    obtain ⟨⟨b, t⟩, hb, he⟩ := Option.map_eq_some_iff.1 h
    cases he
    have := ih hb
    simp only [List.length_cons]; omega

theorem closeBack_length {s body rest : List Char} (h : closeBack s = some (body, rest)) :
    rest.length < s.length := by
  fun_induction closeBack s generalizing body rest with
  | case1 => cases h
  | case2 r => cases h; simp
  | case3 c r _ ih =>
    obtain ⟨⟨b, t⟩, hb, he⟩ := Option.map_eq_some_iff.1 h
    cases he
    have := ih hb
    simp only [List.length_cons]; omega

/-- A word as it stands on the line: between two quotes, or bare. A quote that nothing closes starts
a bare word. -/
inductive Lexeme where
  | quoted (mark : Char) (body : List Char)
  | bare (word : List Char)
  deriving DecidableEq, Repr

/-- The closed quoted string that starts with the given character. -/
def closeQuote (c : Char) (rest : List Char) : Option (List Char × List Char) :=
  if c = '"' then closeDouble rest else if c = '`' then closeBack rest else none

theorem closeQuote_length {c : Char} {s body rest : List Char}
    (h : closeQuote c s = some (body, rest)) : rest.length < s.length := by
  unfold closeQuote at h
  split at h
  · exact closeDouble_length h
  · split at h
    · exact closeBack_length h
    · cases h

/-- The words of a line from left to right, comments not yet told apart. -/
def lexemes : List Char → List Lexeme
  | [] => []
  | c :: rest =>
    if isBlank c then lexemes rest
    else
      match _h : closeQuote c rest with
      | some (body, after) => .quoted c body :: lexemes after
      | none =>
        .bare (c :: rest.takeWhile (!isBlank ·)) :: lexemes (rest.dropWhile (!isBlank ·))
termination_by s => s.length
decreasing_by
  · simp
  · have := closeQuote_length _h; simp; omega
  · have := (List.dropWhile_suffix (!isBlank ·) (l := rest)).length_le; simp; omega

/-- What a bare word means. -/
inductive Reading where
  | word (s : List Char)
  | lastWord (s : List Char)
  | comment
  | unterminated (s : List Char)
  deriving DecidableEq, Repr

/-- A bare word ends where a comment starts. One that starts with a quote is closed by its own last
character or not at all. -/
def readBare (s : List Char) : Reading :=
  if ['/', '/'].isPrefixOf s then .comment
  else
    match s with
    | [] => .word []
    | c :: rest =>
      if c = '"' || c = '`' then
        match rest.getLast? with
        | some d => if d = c then .word rest.dropLast else .unterminated s
        | none => .unterminated s
      else
        match before? ['/', '/'] s with
        | some start => .lastWord start
        | none => .word s

/-- The texts of the words up to a comment; the word whose quote nothing closes is the error. -/
def readWords : List Lexeme → Except (List Char) (List (List Char))
  | [] => .ok []
  | .quoted _ body :: rest => (readWords rest).map (body :: ·)
  | .bare s :: rest =>
    match readBare s with
    | .comment => .ok []
    | .lastWord w => .ok [w]
    | .unterminated w => .error w
    | .word w => (readWords rest).map (w :: ·)

/-- The tokens of a line: the texts of its words that are not empty. -/
def tokens (line : List Char) : Except (List Char) (List String) :=
  (readWords (lexemes line)).map fun words =>
    (words.filter (!·.isEmpty)).map String.ofList

end Attribution.GoMod

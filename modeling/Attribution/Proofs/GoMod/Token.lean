import Attribution.GoMod.Token

/-!
Which words a line holds. A token is read as it stands, bare or between quotes of either kind, where
a blank or the end of the line follows it; blanks and comments add nothing.
-/

namespace Attribution.GoMod

open Attribution.Text

/-- What may be written bare and between quotes alike, and is no comment in part. -/
structure IsToken (s : List Char) : Prop where
  nonempty : s ≠ []
  plain : ∀ c ∈ s, isBlank c = false ∧ c ≠ '"' ∧ c ≠ '`' ∧ c ≠ '\\'
  noComment : occursIn ['/', '/'] s = false

instance (s : List Char) : Decidable (IsToken s) :=
  have : Decidable (∀ c ∈ s, isBlank c = false ∧ c ≠ '"' ∧ c ≠ '`' ∧ c ≠ '\\') :=
    List.decidableBAll _ s
  decidable_of_iff (s ≠ [] ∧ _ ∧ occursIn ['/', '/'] s = false)
    ⟨fun ⟨nonempty, plain, noComment⟩ => ⟨nonempty, plain, noComment⟩,
      fun ⟨nonempty, plain, noComment⟩ => ⟨nonempty, plain, noComment⟩⟩

/-- Nothing follows a word but what is set off from it. -/
def SetOff (s : List Char) : Prop := ∀ c ∈ s.head?, isBlank c = true

theorem SetOff.nil : SetOff [] := fun _ h => nomatch h

theorem SetOff.cons {c : Char} (blank : isBlank c = true) (s : List Char) : SetOff (c :: s) :=
  fun _ h => Option.some.inj h ▸ blank

/-- Blanks set off what follows them. -/
theorem SetOff.append {gap s : List Char} (blank : ∀ c ∈ gap, isBlank c = true)
    (some : gap ≠ []) : SetOff (gap ++ s) := by
  cases gap with
  | nil => exact absurd rfl some
  | cons c gap => exact .cons (blank c List.mem_cons_self) (gap ++ s)

theorem lexemes_nil : lexemes [] = [] := lexemes.eq_def []

theorem lexemes_cons_blank {c : Char} (blank : isBlank c = true) (s : List Char) :
    lexemes (c :: s) = lexemes s := (lexemes.eq_def (c :: s)).trans (if_pos blank)

/-- Any other character starts a word: a quoted one where its quote is closed, else a bare one. -/
theorem lexemes_cons_solid {c : Char} (solid : isBlank c = false) (s : List Char) :
    lexemes (c :: s) =
      match closeQuote c s with
      | some (body, after) => .quoted c body :: lexemes after
      | none => .bare (c :: s.takeWhile (!isBlank ·)) :: lexemes (s.dropWhile (!isBlank ·)) := by
  rw [lexemes.eq_def]
  dsimp only
  rw [if_neg (by rw [solid]; decide)]
  split <;> rename_i closed <;> rw [closed]

/-! Blanks. -/

theorem lexemes_append_blank {gap : List Char} (blank : ∀ c ∈ gap, isBlank c = true)
    (s : List Char) : lexemes (gap ++ s) = lexemes s := by
  induction gap with
  | nil => rfl
  | cons c gap ih =>
      rw [List.cons_append, lexemes_cons_blank (blank c List.mem_cons_self),
        ih fun d hd => blank d (List.mem_cons_of_mem c hd)]

theorem lexemes_blanks {gap : List Char} (blank : ∀ c ∈ gap, isBlank c = true) :
    lexemes gap = [] := by
  rw [← List.append_nil gap, lexemes_append_blank blank, lexemes_nil]

/-! Bare words. -/

section

variable {word s : List Char} (solid : ∀ c ∈ word, isBlank c = false) (off : SetOff s)

include solid off

theorem takeWhile_append_of_setOff : (word ++ s).takeWhile (!isBlank ·) = word := by
  rw [List.takeWhile_append_of_pos fun c hc => by rw [solid c hc]; rfl]
  cases s with
  | nil => exact List.append_nil word
  | cons c s => rw [List.takeWhile_cons_of_neg (by simp [off c rfl]), List.append_nil]

theorem dropWhile_append_of_setOff : (word ++ s).dropWhile (!isBlank ·) = s := by
  rw [List.dropWhile_append_of_pos fun c hc => by rw [solid c hc]; rfl]
  cases s with
  | nil => rfl
  | cons c s => rw [List.dropWhile_cons_of_neg (by simp [off c rfl])]

end

theorem lexemes_bare {word s : List Char} (token : IsToken word) (off : SetOff s) :
    lexemes (word ++ s) = .bare word :: lexemes s := by
  cases word with
  | nil => exact absurd rfl token.nonempty
  | cons c word =>
      obtain ⟨solid, noDouble, noBack, -⟩ := token.plain c List.mem_cons_self
      have rest : ∀ d ∈ word, isBlank d = false :=
        fun d hd => (token.plain d (List.mem_cons_of_mem c hd)).1
      have unquoted : closeQuote c (word ++ s) = none := by
        rw [closeQuote, if_neg noDouble, if_neg noBack]
      rw [List.cons_append, lexemes_cons_solid solid, unquoted]
      dsimp only
      rw [takeWhile_append_of_setOff rest off, dropWhile_append_of_setOff rest off]

/-! Quoted words. -/

/-- What may stand between two double quotes: a backslash takes in the character after it. -/
inductive Escaped : List Char → Prop
  | nil : Escaped []
  | plain {c : Char} {s : List Char} (noQuote : c ≠ '"') (noBackslash : c ≠ '\\')
    (rest : Escaped s) : Escaped (c :: s)
  | escape (c : Char) {s : List Char} (rest : Escaped s) : Escaped ('\\' :: c :: s)

theorem Escaped.of_plain {body : List Char} (plain : ∀ c ∈ body, c ≠ '"' ∧ c ≠ '\\') :
    Escaped body := by
  induction body with
  | nil => exact .nil
  | cons c body ih =>
      obtain ⟨noQuote, noBackslash⟩ := plain c List.mem_cons_self
      exact .plain noQuote noBackslash (ih fun d hd => plain d (List.mem_cons_of_mem c hd))

theorem closeDouble_append {body : List Char} (escaped : Escaped body) (s : List Char) :
    closeDouble (body ++ '"' :: s) = some (body, s) := by
  induction escaped with
  | nil => rw [List.nil_append, closeDouble]
  | plain noQuote noBackslash _ ih =>
      rw [List.cons_append, closeDouble.eq_5, ih]
      · rfl
      · exact fun h _ => noBackslash h
      · exact noQuote
      · exact fun _ _ h _ => noBackslash h
  | escape c _ ih =>
      rw [List.cons_append, List.cons_append, closeDouble.eq_4, ih]
      rfl

theorem closeBack_append {body : List Char} (plain : ∀ c ∈ body, c ≠ '`') (s : List Char) :
    closeBack (body ++ '`' :: s) = some (body, s) := by
  induction body with
  | nil => rw [List.nil_append, closeBack]
  | cons c body ih =>
      rw [List.cons_append, closeBack.eq_3, ih fun d hd => plain d (List.mem_cons_of_mem c hd)]
      · rfl
      · exact plain c List.mem_cons_self

theorem lexemes_quoted {mark : Char} {body s after : List Char} (solid : isBlank mark = false)
    (closed : closeQuote mark s = some (body, after)) :
    lexemes (mark :: s) = .quoted mark body :: lexemes after := by
  rw [lexemes_cons_solid solid, closed]

/-! What the words mean. -/

theorem before?_eq_none_iff {part : List Char} (some : part ≠ []) (s : List Char) :
    before? part s = none ↔ occursIn part s = false := by
  induction s with
  | nil => simp [before?, occursIn, some]
  | cons c s ih =>
      rw [before?, occursIn]
      cases part.isPrefixOf (c :: s) with
      | true => simp
      | false => simpa using ih

theorem readBare_token {word : List Char} (token : IsToken word) : readBare word = .word word := by
  have noComment : before? ['/', '/'] word = none :=
    (before?_eq_none_iff (by decide) word).2 token.noComment
  cases word with
  | nil => exact absurd rfl token.nonempty
  | cons c word =>
      obtain ⟨-, noDouble, noBack, -⟩ := token.plain c List.mem_cons_self
      have noStart : ['/', '/'].isPrefixOf (c :: word) = false :=
        (Bool.or_eq_false_iff.1 token.noComment).1
      unfold readBare
      rw [if_neg (by rw [noStart]; decide)]
      dsimp only
      rw [if_neg (by simp [noDouble, noBack]), noComment]

/-- Where a comment starts, the words of the line end. -/
theorem readWords_comment (s : List Char) : readWords (lexemes ('/' :: '/' :: s)) = .ok [] := by
  have unquoted : closeQuote '/' ('/' :: s) = none := rfl
  rw [lexemes_cons_solid rfl, unquoted]
  rfl

theorem readWords_blanks {gap : List Char} (blank : ∀ c ∈ gap, isBlank c = true) :
    readWords (lexemes gap) = .ok [] := by
  rw [lexemes_blanks blank, readWords]

end Attribution.GoMod

import Attribution.Proofs.GoMod.Statement

/-!
Quotes that nothing closes. Reading a line comes to words one after another until a comment; a quote at
the start of a word opens a string only where it is closed later on the line. A file in which one is not
is rejected for it, except where the word that it starts ends in a quote that a backslash keeps from
closing the string.
-/

namespace Attribution.GoMod

open Attribution.Text

/-! ### Strings -/

/-- What may stand between two quotes of one kind. -/
inductive Between : Char → List Char → Prop
  | double {body : List Char} (escaped : Escaped body) : Between '"' body
  | back {body : List Char} (plain : '`' ∉ body) : Between '`' body

/-- A quote in front of a text is closed in it. -/
def Closes (mark : Char) (s : List Char) : Prop :=
  ∃ body after, Between mark body ∧ s = body ++ mark :: after

theorem closeDouble_sound {s body after : List Char} (closed : closeDouble s = some (body, after)) :
    Escaped body ∧ s = body ++ '"' :: after := by
  fun_induction closeDouble s generalizing body after with
  | case1 => cases closed
  | case2 => cases closed
  | case3 rest =>
      cases closed
      exact ⟨.nil, rfl⟩
  | case4 c rest ih =>
      obtain ⟨⟨inner, tail⟩, inside, same⟩ := Option.map_eq_some_iff.1 closed
      cases same
      obtain ⟨escaped, rfl⟩ := ih inside
      exact ⟨.escape c escaped, rfl⟩
  | case5 c rest alone noQuote noPair ih =>
      obtain ⟨⟨inner, tail⟩, inside, same⟩ := Option.map_eq_some_iff.1 closed
      cases same
      obtain ⟨escaped, rfl⟩ := ih inside
      -- A backslash with something behind it is read together with that.
      refine ⟨.plain noQuote (fun backslash => ?_) escaped, rfl⟩
      cases inner with
      | nil => exact noPair '"' after backslash rfl
      | cons d inner => exact noPair d (inner ++ '"' :: after) backslash rfl

theorem closeBack_sound {s body after : List Char} (closed : closeBack s = some (body, after)) :
    '`' ∉ body ∧ s = body ++ '`' :: after := by
  fun_induction closeBack s generalizing body after with
  | case1 => cases closed
  | case2 rest =>
      cases closed
      exact ⟨List.not_mem_nil, rfl⟩
  | case3 c rest noQuote ih =>
      obtain ⟨⟨inner, tail⟩, inside, same⟩ := Option.map_eq_some_iff.1 closed
      cases same
      obtain ⟨plain, rfl⟩ := ih inside
      exact ⟨List.not_mem_cons_of_ne_of_not_mem (Ne.symm noQuote) plain, rfl⟩

theorem closeQuote_eq_some_iff {mark : Char} {s body after : List Char} :
    closeQuote mark s = some (body, after) ↔ Between mark body ∧ s = body ++ mark :: after := by
  constructor
  · intro closed
    unfold closeQuote at closed
    split at closed
    next double =>
      subst double
      obtain ⟨escaped, same⟩ := closeDouble_sound closed
      exact ⟨.double escaped, same⟩
    next =>
      split at closed
      next back =>
        subst back
        obtain ⟨plain, same⟩ := closeBack_sound closed
        exact ⟨.back plain, same⟩
      next => cases closed
  · rintro ⟨between, rfl⟩
    cases between with
    | double escaped => exact closeDouble_append escaped after
    | back plain => exact closeBack_append (fun c mem same => plain (same ▸ mem)) after

theorem closeQuote_eq_none_iff {mark : Char} {s : List Char} :
    closeQuote mark s = none ↔ ¬ Closes mark s := by
  rw [← Option.not_isSome_iff_eq_none, Option.isSome_iff_exists]
  simp only [Prod.exists, closeQuote_eq_some_iff, Closes]

/-! ### Where words start -/

/-- The characters that may open a string. -/
def IsQuote (c : Char) : Prop := c = '"' ∨ c = '`'

/-- A bare word that is gone past: it opens no string, and no comment starts in it unless it starts
with a quote. -/
structure Passed (c : Char) (word after : List Char) : Prop where
  solid : ∀ d ∈ c :: word, isBlank d = false
  setOff : SetOff after
  opensNone : ¬ Closes c (word ++ after)
  noComment : IsQuote c ∨ occursIn ['/', '/'] (c :: word) = false

/-- Reading a line from its start comes to what follows, before any comment. -/
inductive Comes : List Char → List Char → Prop
  | here (s : List Char) : Comes s s
  | blank {c : Char} {s t : List Char} (blank : isBlank c = true) (rest : Comes s t) :
    Comes (c :: s) t
  | string {mark : Char} {body s t : List Char} (between : Between mark body) (rest : Comes s t) :
    Comes (mark :: (body ++ mark :: s)) t
  | word {c : Char} {word s t : List Char} (passed : Passed c word s) (rest : Comes s t) :
    Comes (c :: (word ++ s)) t

/-- Reading a line comes to a quote that no later one on the line closes. -/
structure Unclosed (mark : Char) (line rest : List Char) : Prop where
  quote : IsQuote mark
  comes : Comes line (mark :: rest)
  opensNone : ¬ Closes mark rest

/-- What follows a quote up to the next blank. -/
def tail (rest : List Char) : List Char := rest.takeWhile (!isBlank ·)

/-- The word that a quote starts ends in another one of its kind. -/
def Ended (mark : Char) (rest : List Char) : Prop := (tail rest).getLast? = some mark

theorem tail_append (s : List Char) : tail s ++ s.dropWhile (!isBlank ·) = s :=
  List.takeWhile_append_dropWhile

theorem IsQuote.solid {c : Char} (quote : IsQuote c) : isBlank c = false := by
  rcases quote with rfl | rfl <;> decide

theorem Between.isQuote {mark : Char} {body : List Char} (between : Between mark body) :
    IsQuote mark := by
  cases between with
  | double => exact .inl rfl
  | back => exact .inr rfl

/-- A quote right behind another one closes it. -/
theorem IsQuote.between_nil {c : Char} (quote : IsQuote c) : Between c [] := by
  rcases quote with rfl | rfl
  · exact .double .nil
  · exact .back List.not_mem_nil

theorem passed_tail {c : Char} {s : List Char} (solid : isBlank c = false)
    (opensNone : ¬ Closes c s)
    (noComment : IsQuote c ∨ occursIn ['/', '/'] (c :: tail s) = false) :
    Passed c (tail s) (s.dropWhile (!isBlank ·)) where
  solid := List.forall_mem_cons.2 ⟨solid, fun d mem => by
    simpa using List.all_eq_true.1 List.all_takeWhile d mem⟩
  setOff d mem := by
    have first := List.head?_dropWhile_not (!isBlank ·) s
    rw [Option.mem_def.1 mem] at first
    simpa using first
  opensNone := by rwa [tail_append]
  noComment := noComment

theorem lexemes_string {mark : Char} {body : List Char} (between : Between mark body)
    (s : List Char) :
    lexemes (mark :: (body ++ mark :: s)) = .quoted mark body :: lexemes s :=
  lexemes_quoted between.isQuote.solid (closeQuote_eq_some_iff.2 ⟨between, rfl⟩)

theorem lexemes_unclosed {c : Char} {s : List Char} (solid : isBlank c = false)
    (opensNone : ¬ Closes c s) :
    lexemes (c :: s) = .bare (c :: tail s) :: lexemes (s.dropWhile (!isBlank ·)) := by
  rw [lexemes_cons_solid solid, closeQuote_eq_none_iff.2 opensNone]
  rfl

theorem lexemes_passed {c : Char} {word after : List Char} (passed : Passed c word after) :
    lexemes (c :: (word ++ after)) = .bare (c :: word) :: lexemes after := by
  obtain ⟨solid, rest⟩ := List.forall_mem_cons.1 passed.solid
  rw [lexemes_unclosed solid passed.opensNone, tail,
    takeWhile_append_of_setOff rest passed.setOff, dropWhile_append_of_setOff rest passed.setOff]

/-! ### What bare words mean -/

theorem readBare_quote {c : Char} (quote : IsQuote c) (word : List Char) :
    readBare (c :: word) =
      if word.getLast? = some c then .word word.dropLast else .unterminated (c :: word) := by
  have noComment : ['/', '/'].isPrefixOf (c :: word) = false := by
    rcases quote with rfl | rfl <;> rfl
  have opens : (c = '"' || c = '`') = true := by simpa [IsQuote] using quote
  unfold readBare
  rw [if_neg (by rw [noComment]; decide)]
  dsimp only
  rw [if_pos opens]
  cases word.getLast? with
  | none => rfl
  | some d => simp

theorem readBare_word {c : Char} {word : List Char} (noQuote : ¬ IsQuote c)
    (noComment : occursIn ['/', '/'] (c :: word) = false) :
    readBare (c :: word) = .word (c :: word) := by
  have noStart : ['/', '/'].isPrefixOf (c :: word) = false := (Bool.or_eq_false_iff.1 noComment).1
  unfold readBare
  rw [if_neg (by rw [noStart]; decide)]
  dsimp only
  rw [if_neg (by simpa [IsQuote] using noQuote),
    (before?_eq_none_iff (by decide) (c :: word)).2 noComment]

/-- A comment in a word ends the line. -/
theorem readBare_comment {c : Char} {word : List Char} (noQuote : ¬ IsQuote c)
    (comment : occursIn ['/', '/'] (c :: word) = true) :
    readBare (c :: word) = .comment ∨ ∃ start, readBare (c :: word) = .lastWord start := by
  obtain ⟨start, before⟩ : ∃ start, before? ['/', '/'] (c :: word) = some start := by
    refine Option.ne_none_iff_exists'.1 fun none => ?_
    rw [before?_eq_none_iff (by decide), comment] at none
    cases none
  unfold readBare
  split
  · exact .inl rfl
  · dsimp only
    rw [if_neg (by simpa [IsQuote] using noQuote), before]
    exact .inr ⟨start, rfl⟩

theorem readBare_passed {c : Char} {word after : List Char} (passed : Passed c word after) :
    (∃ w, readBare (c :: word) = .word w) ∨ readBare (c :: word) = .unterminated (c :: word) := by
  by_cases quote : IsQuote c
  · rw [readBare_quote quote]
    split
    · exact .inl ⟨word.dropLast, rfl⟩
    · exact .inr rfl
  · exact .inl ⟨c :: word, readBare_word quote (passed.noComment.resolve_left quote)⟩

/-! ### Lines -/

/-- A line that is read is read on from wherever reading it comes. -/
theorem Comes.readWords {line t : List Char} (comes : Comes line t) {words : List (List Char)}
    (read : readWords (lexemes line) = .ok words) :
    ∃ rest, GoMod.readWords (lexemes t) = .ok rest ∧ rest ⊆ words := by
  induction comes generalizing words with
  | here s => exact ⟨words, read, List.Subset.refl words⟩
  | blank blank _ ih =>
      rw [lexemes_cons_blank blank] at read
      exact ih read
  | string between _ ih =>
      rw [lexemes_string between, GoMod.readWords] at read
      obtain ⟨more, inner, rfl⟩ := map_eq_ok_iff.1 read
      obtain ⟨rest, done, among⟩ := ih inner
      exact ⟨rest, done, List.subset_cons_of_subset _ among⟩
  | word passed _ ih =>
      rw [lexemes_passed passed, GoMod.readWords] at read
      obtain ⟨w, means⟩ | means := readBare_passed passed
      · rw [means] at read
        obtain ⟨more, inner, rfl⟩ := map_eq_ok_iff.1 read
        obtain ⟨rest, done, among⟩ := ih inner
        exact ⟨rest, done, List.subset_cons_of_subset _ among⟩
      · rw [means] at read
        cases read

/-- In a line that is read, the word of a quote that nothing closes ends in such a quote, and what
stands between the two is a word of the line. -/
theorem Unclosed.ended {mark : Char} {line rest : List Char} (unclosed : Unclosed mark line rest)
    {words : List (List Char)} (read : readWords (lexemes line) = .ok words) :
    Ended mark rest ∧ (tail rest).dropLast ∈ words := by
  obtain ⟨more, done, among⟩ := unclosed.comes.readWords read
  rw [lexemes_unclosed unclosed.quote.solid unclosed.opensNone, readWords,
    readBare_quote unclosed.quote] at done
  by_cases ended : (tail rest).getLast? = some mark
  · rw [if_pos ended] at done
    obtain ⟨_, -, rfl⟩ := map_eq_ok_iff.1 done
    exact ⟨ended, among List.mem_cons_self⟩
  · rw [if_neg ended] at done
    cases done

/-- The word that a line is refused for starts with a quote that nothing closes. -/
theorem exists_unclosed {line word : List Char}
    (refused : readWords (lexemes line) = .error word) :
    ∃ mark rest, Unclosed mark line rest ∧ ¬ Ended mark rest ∧ word = mark :: tail rest := by
  fun_induction lexemes line with
  | case1 => cases refused
  | case2 c s blank ih =>
      obtain ⟨mark, rest, ⟨quote, comes, opensNone⟩, unended, same⟩ := ih refused
      exact ⟨mark, rest, ⟨quote, .blank blank comes, opensNone⟩, unended, same⟩
  | case3 c s _ body after closed ih =>
      obtain ⟨between, rfl⟩ := closeQuote_eq_some_iff.1 closed
      rw [readWords] at refused
      obtain ⟨mark, rest, ⟨quote, comes, opensNone⟩, unended, same⟩ := ih (map_eq_error_iff.1 refused)
      exact ⟨mark, rest, ⟨quote, .string between comes, opensNone⟩, unended, same⟩
  | case4 c s solid unclosed ih =>
      have opensNone := closeQuote_eq_none_iff.1 unclosed
      -- Where the first word is gone past, the fault lies behind it.
      have past (noComment : IsQuote c ∨ occursIn ['/', '/'] (c :: tail s) = false)
          (later : readWords (lexemes (s.dropWhile (!isBlank ·))) = .error word) :
          ∃ mark rest, Unclosed mark (c :: s) rest ∧ ¬ Ended mark rest ∧
            word = mark :: tail rest := by
        obtain ⟨mark, rest, ⟨quote, comes, behind⟩, unended, same⟩ := ih later
        have passed := passed_tail (Bool.eq_false_iff.2 solid) opensNone noComment
        have here := Comes.word passed comes
        rw [tail_append] at here
        exact ⟨mark, rest, ⟨quote, here, behind⟩, unended, same⟩
      rw [readWords, ← tail] at refused
      by_cases quote : IsQuote c
      · rw [readBare_quote quote] at refused
        by_cases ended : (tail s).getLast? = some c
        · rw [if_pos ended] at refused
          exact past (.inl quote) (map_eq_error_iff.1 refused)
        · rw [if_neg ended] at refused
          exact ⟨c, s, ⟨quote, .here (c :: s), opensNone⟩, ended,
            (Except.error.inj refused).symm⟩
      · cases comment : occursIn ['/', '/'] (c :: tail s) with
        | false =>
            rw [readBare_word quote comment] at refused
            exact past (.inr comment) (map_eq_error_iff.1 refused)
        | true =>
            obtain means | ⟨start, means⟩ := readBare_comment quote comment <;>
              · rw [means] at refused
                cases refused

/-- What a quote that nothing closes starts is a token of a line that is read. -/
theorem Unclosed.mem_tokens {mark : Char} {line rest : List Char}
    (unclosed : Unclosed mark line rest) {words : List String} (read : tokens line = .ok words) :
    Ended mark rest ∧ String.ofList (tail rest).dropLast ∈ words := by
  obtain ⟨texts, inner, rfl⟩ := map_eq_ok_iff.1 read
  obtain ⟨ended, mem⟩ := unclosed.ended inner
  refine ⟨ended, List.mem_map.2 ⟨_, List.mem_filter.2 ⟨mem, ?_⟩, rfl⟩⟩
  have some : (tail rest).dropLast ≠ [] := fun empty => by
    have alone : tail rest = [mark] := by
      rw [← List.dropLast_append_getLast? mark ended, empty, List.nil_append]
    have split := tail_append rest
    rw [alone] at split
    exact unclosed.opensNone ⟨[], _, unclosed.quote.between_nil, split.symm⟩
  simpa using some

/-- A line is refused just where it has a quote that nothing closes and whose word does not end in
one. -/
theorem tokens_eq_error_iff {line : List Char} :
    (∃ word, tokens line = .error word) ↔
      ∃ mark rest, Unclosed mark line rest ∧ ¬ Ended mark rest := by
  constructor
  · rintro ⟨word, refused⟩
    obtain ⟨mark, rest, unclosed, unended, -⟩ := exists_unclosed (map_eq_error_iff.1 refused)
    exact ⟨mark, rest, unclosed, unended⟩
  · rintro ⟨mark, rest, unclosed, unended⟩
    cases outcome : tokens line with
    | error word => exact ⟨word, rfl⟩
    | ok words => exact absurd (unclosed.mem_tokens outcome).1 unended

/-! ### Files -/

/-- The token that is blamed. -/
def Fault.token? : Fault → Option String
  | unterminatedQuote _ token => some token
  | _ => none

theorem readReplace_token? {n : Nat} {args : List String} {f : Fault}
    (refused : readReplace n args = .error f) : f.token? = none := by
  by_cases arrow : "=>" ∈ args
  · obtain ⟨left, right, rfl, first⟩ := List.eq_append_cons_of_mem arrow
    rw [readReplace_parts n first] at refused
    split at refused
    · obtain old | ⟨v, -, rest⟩ := bind_eq_error_iff.1 refused
      · unfold readReplaced at old
        split at old <;> cases old
        rfl
      · have new := map_eq_error_iff.1 rest
        unfold readReplacement at new
        split at new
        · split at new <;> cases new
          rfl
        · split at new <;> cases new
          rfl
        · cases new
          rfl
    · cases refused
      rfl
  · rw [readReplace, if_neg (by rwa [List.contains_iff_mem])] at refused
    cases refused
    rfl

namespace Draft

theorem direct_token? {d : Draft} {n : Nat} {verb : String} {args : List String} {f : Fault}
    (refused : d.direct n verb args = .error f) : f.token? = none := by
  unfold direct at refused
  split at refused
  · split at refused <;> cases refused
    rfl
  · split at refused
    · have read := map_eq_error_iff.1 refused
      unfold readRequire at read
      split at read <;> cases read
      rfl
    · split at refused
      · exact readReplace_token? (map_eq_error_iff.1 refused)
      · cases refused

/-- No token is blamed for what a line says. -/
theorem take_token? {d : Draft} {n : Nat} {words : List String} {f : Fault}
    (refused : d.take n words = .error f) : f.token? = none := by
  unfold take at refused
  split at refused
  · cases refused
  · split at refused
    · split at refused
      · cases refused
      · exact direct_token? refused
    · split at refused
      · split at refused
        · cases refused
        · exact direct_token? refused
      · cases refused
        rfl

theorem takeLines_append {d e : Draft} {n : Nat} {before : List (List Char)}
    (taken : d.takeLines n before = .ok e) (after : List (List Char)) :
    d.takeLines n (before ++ after) = e.takeLines (n + before.length) after := by
  induction before generalizing d n with
  | nil => rw [Except.ok.inj taken, List.nil_append, List.length_nil, Nat.add_zero]
  | cons line before ih =>
      rw [takeLines] at taken
      split at taken
      next => cases taken
      next words read =>
        split at taken
        next => cases taken
        next f first =>
          rw [List.cons_append, takeLines_cons read first, ih taken, List.length_cons]
          congr 1
          omega

/-- A quote is reported on the first line that is refused for one, all lines before being taken in. -/
theorem takeLines_unterminated {d : Draft} {n k : Nat} {word : String} {lines : List (List Char)}
    (refused : d.takeLines n lines = .error (.unterminatedQuote k word)) :
    ∃ i line, k = n + i ∧ lines[i]? = some line ∧ (∃ e, d.takeLines n (lines.take i) = .ok e) ∧
      ∃ text, tokens line = .error text := by
  induction lines generalizing d n with
  | nil => cases refused
  | cons line lines ih =>
      rw [takeLines] at refused
      split at refused
      next text unread =>
        cases refused
        exact ⟨0, line, rfl, rfl, ⟨d, rfl⟩, text, unread⟩
      next words read =>
        split at refused
        next f untaken =>
          cases refused
          cases take_token? untaken
        next f taken =>
          obtain ⟨i, other, number, place, ⟨e, before⟩, unread⟩ := ih refused
          refine ⟨i + 1, other, by omega, place, ⟨e, ?_⟩, unread⟩
          rw [List.take_succ_cons, takeLines_cons read taken, before]

end Draft

theorem parse_of_decode {data : List UInt8} {text : List Char}
    (decoded : Utf8.decode data = .ok text) :
    parse data = (Draft.empty.takeLines 1 (splitLines text)).bind Draft.finish := by
  rw [parse, decoded]
  rfl

theorem finish_token? {d : Draft} {f : Fault} (refused : d.finish = .error f) :
    f.token? = none := by
  unfold Draft.finish at refused
  split at refused <;> cases refused <;> rfl

theorem parse_eq_unterminated_iff {data : List UInt8} {text : List Char}
    (decoded : Utf8.decode data = .ok text) {i : Nat} :
    (∃ word, parse data = .error (.unterminatedQuote (i + 1) word)) ↔
      (∃ d, Draft.empty.takeLines 1 ((splitLines text).take i) = .ok d) ∧
        ∃ line, (splitLines text)[i]? = some line ∧ ∃ word, tokens line = .error word := by
  rw [parse_of_decode decoded]
  constructor
  · rintro ⟨word, refused⟩
    obtain refused | ⟨d, -, unfinished⟩ := bind_eq_error_iff.1 refused
    · obtain ⟨j, line, number, place, before, unread⟩ := Draft.takeLines_unterminated refused
      obtain rfl : j = i := by omega
      exact ⟨before, line, place, unread⟩
    · cases finish_token? unfinished
  · rintro ⟨⟨d, before⟩, line, place, word, unread⟩
    obtain ⟨short, rfl⟩ := List.getElem?_eq_some_iff.1 place
    have whole := Draft.takeLines_append before ((splitLines text).drop i)
    rw [List.take_append_drop, List.drop_eq_getElem_cons short, Draft.takeLines, unread,
      List.length_take_of_le (Nat.le_of_lt short), Nat.add_comm] at whole
    exact ⟨String.ofList word, bind_eq_error_iff.2 (.inl whole)⟩

/-- Every line of a file that is read is read. -/
theorem exists_tokens {data : List UInt8} {text : List Char}
    (decoded : Utf8.decode data = .ok text) {m : Manifest} (accepted : parse data = .ok m)
    {line : List Char} (mem : line ∈ splitLines text) : ∃ words, tokens line = .ok words := by
  obtain ⟨lines, ⟨same, decoded', read⟩, -, -⟩ := yields_of_parse accepted
  obtain rfl := Except.ok.inj (decoded.symm.trans decoded')
  obtain ⟨words, -, ok⟩ := List.mem_map.1 (read ▸ List.mem_map_of_mem mem)
  exact ⟨words, ok.symm⟩

/-- A file is refused where a line has a double quote that nothing closes and whose word does not end
in one. A quote of either kind is reported on the first line that has such a one, if nothing is wrong
before. In a file that is read, every other double quote that nothing closes starts a token, which is
what stands between it and the end of its word. -/
theorem unclosed_of_parse {data : List UInt8} {text : List Char}
    (decoded : Utf8.decode data = .ok text) :
    (∀ line ∈ splitLines text, ∀ rest, Unclosed '"' line rest → ¬ Ended '"' rest →
      ∃ fault, parse data = .error fault) ∧
    (∀ i, (∃ word, parse data = .error (.unterminatedQuote (i + 1) word)) ↔
      (∃ d, Draft.empty.takeLines 1 ((splitLines text).take i) = .ok d) ∧
        ∃ line, (splitLines text)[i]? = some line ∧
          ∃ mark rest, Unclosed mark line rest ∧ ¬ Ended mark rest) ∧
    ∀ m, parse data = .ok m → ∀ line ∈ splitLines text, ∀ rest, Unclosed '"' line rest →
      Ended '"' rest ∧
        ∃ words, tokens line = .ok words ∧ String.ofList (tail rest).dropLast ∈ words := by
  have read (m : Manifest) (accepted : parse data = .ok m) (line) (mem : line ∈ splitLines text)
      (rest) (unclosed : Unclosed '"' line rest) : Ended '"' rest ∧
        ∃ words, tokens line = .ok words ∧ String.ofList (tail rest).dropLast ∈ words := by
    obtain ⟨words, ok⟩ := exists_tokens decoded accepted mem
    obtain ⟨ended, among⟩ := unclosed.mem_tokens ok
    exact ⟨ended, words, ok, among⟩
  refine ⟨fun line mem rest unclosed unended => ?_, fun i => ?_, read⟩
  · cases outcome : parse data with
    | error fault => exact ⟨fault, rfl⟩
    | ok m => exact absurd (read m outcome line mem rest unclosed).1 unended
  · rw [parse_eq_unterminated_iff decoded]
    simp only [tokens_eq_error_iff]

/-- Reading a line comes to what follows its verb. -/
theorem Comes.verb {verb : String} (known : verb ∈ directives) {s t : List Char}
    (rest : Comes s t) : Comes (verb.toList ++ ' ' :: s) t := by
  have token := isToken_of_mem_directives verb known
  cases word : verb.toList with
  | nil => exact absurd word token.nonempty
  | cons c w =>
      rw [word] at token
      obtain ⟨-, noDouble, noBack, -⟩ := token.plain c List.mem_cons_self
      have noQuote : closeQuote c (w ++ ' ' :: s) = none := by
        rw [closeQuote, if_neg noDouble, if_neg noBack]
      have passed : Passed c w (' ' :: s) :=
        ⟨fun d mem => (token.plain d mem).1, .cons rfl s, closeQuote_eq_none_iff.1 noQuote,
          .inr token.noComment⟩
      exact .word passed (.blank rfl rest)

/-- The only quote behind the first one is escaped. -/
theorem unclosed_of_parse_escaped :
    let rest := "b v1\\\"".toList
    let line := "require".toList ++ ' ' :: '"' :: rest
    let text := "module m\n".toList ++ line
    Utf8.decode (Utf8.encode text) = .ok text ∧ line ∈ splitLines text ∧
      Unclosed '"' line rest ∧ ¬ Ended '"' rest ∧
        ∃ fault, parse (Utf8.encode text) = .error fault := by
  intro rest line text
  have mem : line ∈ splitLines text := by decide +kernel
  have unclosed : Unclosed '"' line rest :=
    ⟨.inl rfl, .verb (by decide) (.here _), closeQuote_eq_none_iff.1 (by decide +kernel)⟩
  have unended : ¬ Ended '"' rest := by
    unfold Ended
    decide +kernel
  have decoded := Utf8.decode_encode text
  exact ⟨decoded, mem, unclosed, unended,
    (unclosed_of_parse decoded).1 line mem rest unclosed unended⟩

/-- Nothing closes the quote, but its word ends in one that is escaped. -/
theorem escaped_accepted :
    let rest := "a\\\"".toList
    let text := "module".toList ++ ' ' :: '"' :: rest
    (∃ line ∈ splitLines text, Unclosed '"' line rest) ∧
      parse (Utf8.encode text) = .ok ⟨⟨"a\\", ""⟩, [], []⟩ := by
  intro rest text
  have mem : text ∈ splitLines text := by decide +kernel
  have unclosed : Unclosed '"' text rest :=
    ⟨.inl rfl, .verb (by decide) (.here _), closeQuote_eq_none_iff.1 (by decide +kernel)⟩
  exact ⟨⟨text, mem, unclosed⟩, by decide +kernel⟩

end Attribution.GoMod

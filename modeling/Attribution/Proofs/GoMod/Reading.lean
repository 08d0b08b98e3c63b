import Attribution.Proofs.GoMod.Layout
import Attribution.Proofs.Manifest
import Attribution.Proofs.Text.Utf8

/-!
Reading a go.mod file gives what its directives say, in whatever way they are laid out. Every line is
read as the tokens that were written on it, every directive does what it says, in a block or alone,
and the lines are read one after another whatever ends them.
-/

namespace Attribution.GoMod

open Attribution.Text

/-! ### The tokens of a line -/

theorem readWords_append (t : Token) (w : Wrap) {s : List Char} {words : List (List Char)}
    (off : SetOff s) (rest : readWords (lexemes s) = .ok words) :
    readWords (lexemes (w.write t.text.toList ++ s)) = .ok (t.text.toList :: words) := by
  have plain := t.sound.plain
  cases w with
  | bare =>
      rw [Wrap.write, lexemes_bare t.sound off, readWords, readBare_token t.sound]
      dsimp only
      rw [rest]
      rfl
  | double =>
      have closed : closeQuote '"' (t.text.toList ++ '"' :: s) = some (t.text.toList, s) :=
        closeDouble_append (.of_plain fun c hc => ⟨(plain c hc).2.1, (plain c hc).2.2.2⟩) s
      rw [Wrap.write, List.cons_append, List.append_assoc, List.singleton_append,
        lexemes_quoted (by decide) closed, readWords, rest]
      rfl
  | back =>
      have closed : closeQuote '`' (t.text.toList ++ '`' :: s) = some (t.text.toList, s) :=
        closeBack_append (fun c hc => (plain c hc).2.2.1) s
      rw [Wrap.write, List.cons_append, List.append_assoc, List.singleton_append,
        lexemes_quoted (by decide) closed, readWords, rest]
      rfl

theorem readWords_comment_write (c : Comment) : readWords (lexemes c.write) = .ok [] :=
  readWords_comment c.text

theorem readWords_trailer (t : Trailer) : readWords (lexemes t.write) = .ok [] := by
  cases t with
  | blank trailing => exact readWords_blanks trailing.blank
  | comment gap c =>
      rw [Trailer.write, lexemes_append_blank gap.blank]
      exact readWords_comment_write c

theorem setOff_trailer (t : Trailer) : SetOff t.write := by
  cases t with
  | comment gap c => exact .append gap.blank gap.nonempty
  | blank trailing =>
      obtain ⟨text, blank, -⟩ := trailing
      cases text with
      | nil => exact .nil
      | cons c text => exact .cons (blank c List.mem_cons_self) text

namespace Style

variable (s : Style)

theorem setOff_writeFrom (i : Nat) (ts : List Token) : SetOff (s.writeFrom i ts) := by
  cases ts with
  | nil => exact setOff_trailer s.trailer
  | cons t ts => exact .append (s.gap i).blank (s.gap i).nonempty

theorem readWords_writeFrom (i : Nat) (ts : List Token) :
    readWords (lexemes (s.writeFrom i ts)) = .ok (ts.map (·.text.toList)) := by
  induction ts generalizing i with
  | nil => exact readWords_trailer s.trailer
  | cons t ts ih =>
      rw [writeFrom, lexemes_append_blank (s.gap i).blank]
      exact readWords_append t (s.wrap i) (s.setOff_writeFrom (i + 1) ts) (ih (i + 1))

theorem readWords_write (ts : List Token) :
    readWords (lexemes (s.write ts)) = .ok (ts.map (·.text.toList)) := by
  cases ts with
  | nil =>
      rw [write, lexemes_append_blank s.lead.blank]
      exact readWords_trailer s.trailer
  | cons t ts =>
      rw [write, lexemes_append_blank s.lead.blank]
      exact readWords_append t (s.wrap 0) (s.setOff_writeFrom 1 ts) (s.readWords_writeFrom 1 ts)

/-- A line holds the tokens that were written on it. -/
theorem tokens_write (ts : List Token) : tokens (s.write ts) = .ok (ts.map (·.text)) := by
  have all : (ts.map (·.text.toList)).filter (!·.isEmpty) = ts.map (·.text.toList) := by
    refine List.filter_eq_self.2 fun word mem => ?_
    obtain ⟨t, -, rfl⟩ := List.mem_map.1 mem
    simpa using t.sound.nonempty
  rw [tokens, readWords_write]
  refine congrArg Except.ok ?_
  dsimp only
  rw [all, List.map_map]
  exact List.map_congr_left fun t _ => String.ofList_toList

end Style

theorem tokens_filling (lead : Spacing) (comment : Option Comment) :
    tokens (Row.filling lead comment) = .ok [] := by
  have none : readWords (lexemes (Row.filling lead comment)) = .ok [] := by
    cases comment with
    | none => exact readWords_blanks lead.blank
    | some c =>
        rw [Row.filling, lexemes_append_blank lead.blank]
        exact readWords_comment_write c
  rw [tokens, none]
  rfl

/-! ### What a directive does -/

theorem not_mem_words (mark : String) (known : mark ∈ ["(", ")", "=>"]) (ws : List Word) :
    mark ∉ (ws.map Word.toToken).map (·.text) := fun mem => by
  rw [List.map_map] at mem
  obtain ⟨w, -, rfl⟩ := List.mem_map.1 mem
  exact w.plain known

/-- The arguments of a directive open and close nothing. -/
theorem Directive.not_mem_args (x : Directive) (bracket : String) (known : bracket ∈ ["(", ")"]) :
    bracket ∉ x.args.map (·.text) := by
  have words := not_mem_words bracket (List.mem_append_left ["=>"] known)
  cases x with
  | module path => exact words [path]
  | require path version => exact words [path, version]
  | passed verb args => exact words args
  | replace path version target =>
      have arrow : bracket ≠ "=>" := fun same => absurd (same ▸ known) (by decide)
      rw [args, List.map_append]
      refine List.not_mem_append (words (path :: version.toList)) ?_
      exact List.not_mem_cons_of_ne_of_not_mem arrow (words target.words)

/-- The arguments on both sides of the first arrow. -/
theorem readReplace_parts (n : Nat) {left right : List String} (first : "=>" ∉ left) :
    readReplace n (left ++ "=>" :: right) =
      if right.length = 1 || right.length = 2 then
        (readReplaced n left).bind fun old =>
          (readReplacement n right).map fun new => (old, new)
      else .error (.malformedReplace n) := by
  have before : ∀ s ∈ left, (s != "=>") = true := fun s mem => by
    rw [bne_iff_ne]
    exact fun same => first (same ▸ mem)
  have found : (left ++ "=>" :: right).contains "=>" = true := by
    rw [List.contains_iff_mem]
    exact List.mem_append_right left List.mem_cons_self
  rw [readReplace, if_pos found, List.takeWhile_append_of_pos before,
    List.dropWhile_append_of_pos before, List.takeWhile_cons_of_neg (by decide),
    List.dropWhile_cons_of_neg (by decide), List.append_nil, List.drop_one, List.tail_cons]

theorem readReplace_append (n : Nat) {left right : List String} (first : "=>" ∉ left)
    (some : right.length = 1 ∨ right.length = 2) :
    readReplace n (left ++ "=>" :: right) =
      (readReplaced n left).bind fun old =>
        (readReplacement n right).map fun new => (old, new) := by
  rw [readReplace_parts n first, if_pos (by simpa using some)]

theorem readReplacement_words (n : Nat) (t : Target) :
    readReplacement n ((t.words.map Word.toToken).map (·.text)) = .ok t.replacement := by
  cases t with
  | directory path inside => exact if_pos inside
  | module path version outside =>
      exact if_neg (by rw [outside]; decide)

theorem readReplace_args (n : Nat) (path : Word) (version : Option Word) (t : Target) :
    readReplace n ((Directive.replace path version t).args.map (·.text)) =
      .ok (⟨path.text, (version.map (·.text)).getD ""⟩, t.replacement) := by
  have first := not_mem_words "=>" (by decide) (path :: version.toList)
  have some : ((t.words.map Word.toToken).map (·.text)).length = 1 ∨
      ((t.words.map Word.toToken).map (·.text)).length = 2 := by
    cases t with
    | directory => exact .inl rfl
    | module => exact .inr rfl
  rw [Directive.args, List.map_append, List.map_cons]
  refine (readReplace_append n first some).trans ?_
  rw [readReplacement_words]
  cases version <;> rfl

namespace Draft

/-- What has been read once directives are added. The last module directive counts. -/
def addAll (d : Draft) (xs : List Directive) : Draft where
  module := ((xs.filterMap Directive.path?).getLast?.map fun path => ⟨path.text, ""⟩).or d.module
  requires := d.requires ++ xs.filterMap Directive.required?
  replaces := d.replaces.declareAll (xs.filterMap Directive.declared?)
  block := d.block

theorem addAll_nil (d : Draft) : d.addAll [] = d := by
  simp [addAll, Replacements.declareAll]

theorem addAll_append (d : Draft) (xs ys : List Directive) :
    d.addAll (xs ++ ys) = (d.addAll xs).addAll ys := by
  simp only [addAll, List.filterMap_append, List.getLast?_append, Option.map_or, Option.or_assoc,
    List.append_assoc, Replacements.declareAll, List.foldl_append]

theorem direct_eq_addAll (d : Draft) (n : Nat) (x : Directive) :
    d.direct n x.verb.text (x.args.map (·.text)) = .ok (d.addAll [x]) := by
  cases x with
  | module path =>
      have added : d.addAll [.module path] =
          ⟨some ⟨path.text, ""⟩, d.requires ++ [], d.replaces, d.block⟩ := rfl
      rw [added, List.append_nil]
      rfl
  | require path version => rfl
  | replace path version target =>
      have read := readReplace_args n path version target
      have added : d.addAll [.replace path version target] =
          ⟨d.module, d.requires ++ [],
            d.replaces.declare ⟨path.text, (version.map (·.text)).getD ""⟩ target.replacement,
            d.block⟩ := rfl
      simp only [direct, Directive.verb, read, added, List.append_nil]
      rfl
  | passed verb args =>
      have other := verb.passed
      simp only [List.mem_cons, List.not_mem_nil, or_false, not_or] at other
      rw [direct.eq_def, Directive.verb, if_neg other.1, if_neg other.2.1, if_neg other.2.2]
      exact congrArg Except.ok d.addAll_nil.symm

theorem take_row {d : Draft} (outside : d.block = none) (n : Nat) (x : Directive) :
    d.take n (x.verb.text :: x.args.map (·.text)) = .ok (d.addAll [x]) := by
  have known : directives.contains x.verb.text = true := by
    rw [List.contains_iff_mem]
    exact x.verb.known
  have noBlock : x.args.map (·.text) ≠ ["("] := fun same =>
    x.not_mem_args "(" (by decide) (by rw [same]; decide)
  simp only [take, outside]
  rw [if_pos known, if_neg noBlock, direct_eq_addAll]

theorem take_open {d : Draft} (outside : d.block = none) (n : Nat) (v : Verb) :
    d.take n [v.text, "("] = .ok { d with block := some v.text } := by
  have known : directives.contains v.text = true := by
    rw [List.contains_iff_mem]
    exact v.known
  simp only [take, outside]
  rw [if_pos known, if_pos trivial]

theorem take_inside {d : Draft} {x : Directive} (inside : d.block = some x.verb.text) (n : Nat) :
    d.take n (x.args.map (·.text)) = .ok (d.addAll [x]) := by
  have noEnd : x.args.map (·.text) ≠ [")"] := fun same =>
    x.not_mem_args ")" (by decide) (by rw [same]; decide)
  have read := d.direct_eq_addAll n x
  cases args : x.args.map (·.text) with
  | nil =>
      -- Nothing stands on the line; only a directive that is passed over has no arguments.
      cases x with
      | passed => exact congrArg Except.ok d.addAll_nil.symm
      | module => cases args
      | require => cases args
      | replace => cases args
  | cons first rest =>
      rw [args] at noEnd read
      simp only [take, inside]
      rw [if_neg noEnd, read]

theorem take_close {d : Draft} {verb : String} (inside : d.block = some verb) (n : Nat) :
    d.take n [")"] = .ok { d with block := none } := by
  simp only [take, inside]
  rw [if_pos trivial]

end Draft

/-! ### Lines one after another -/

/-- A line takes one draft to another, wherever it stands. -/
def Line.Leads (l : Line) (d e : Draft) : Prop :=
  ∃ words, tokens l.text = .ok words ∧ ∀ n, d.take n words = .ok e

/-- Lines in order take one draft to another. -/
inductive Leads : Draft → List Line → Draft → Prop
  | nil (d : Draft) : Leads d [] d
  | cons {d e f : Draft} {l : Line} {ls : List Line} (first : l.Leads d e) (rest : Leads e ls f) :
    Leads d (l :: ls) f

theorem Leads.append {d e f : Draft} {ls ms : List Line} (left : Leads d ls e)
    (right : Leads e ms f) : Leads d (ls ++ ms) f := by
  induction left with
  | nil => exact right
  | cons first _ ih => exact .cons first (ih right)

theorem Leads.single {d e : Draft} {l : Line} (h : l.Leads d e) : Leads d [l] e := .cons h (.nil e)

theorem takeLines_cons {d e : Draft} {line : List Char} {words : List String} {n : Nat}
    (read : tokens line = .ok words) (taken : d.take n words = .ok e) (rest : List (List Char)) :
    d.takeLines n (line :: rest) = e.takeLines (n + 1) rest := by
  rw [Draft.takeLines, read]
  dsimp only
  rw [taken]

/-- An empty line adds nothing. -/
theorem takeLines_empty (d : Draft) (n : Nat) (rest : List (List Char)) :
    d.takeLines n ([] :: rest) = d.takeLines (n + 1) rest := by
  have read : tokens [] = .ok [] := by rw [tokens, lexemes_nil]; rfl
  exact takeLines_cons read rfl rest

/-- A line and its end, before a text that is read as it should be from any line on. -/
theorem takeLines_lineEnd {d e f : Draft} {l : Line} (leads : l.Leads d e) {rest : List Char}
    (after : ∀ n, e.takeLines n (splitLines rest) = .ok f) (n : Nat) :
    d.takeLines n (splitLines (l.text ++ (l.ending.text ++ rest))) = .ok f := by
  obtain ⟨words, read, taken⟩ := leads
  obtain split | ⟨rest', rfl, split⟩ := splitLines_lineEnd l.whole l.ending rest
  · rw [split, takeLines_cons read (taken n)]
    exact after (n + 1)
  · -- The line feed belongs to the carriage return before it, and an empty line is not missed.
    have once := after n
    rw [splitLines_newline, takeLines_empty] at once
    rw [split, takeLines_cons read (taken n), once]

theorem takeLines_unended {d e : Draft} {l : Line} (leads : l.Leads d e) (n : Nat) :
    d.takeLines n (splitLines l.text) = .ok e := by
  obtain ⟨words, read, taken⟩ := leads
  by_cases empty : l.text = []
  · rw [empty] at read ⊢
    have none : words = [] := by
      rw [tokens, lexemes_nil] at read
      exact (Except.ok.inj read).symm
    have same := taken n
    rw [none] at same
    rw [splitLines, Draft.takeLines, Except.ok.inj same]
  · rw [splitLines_of_onOneLine l.whole empty, takeLines_cons read (taken n)]
    rfl

theorem takeLines_page {d e : Draft} {ls : List Line} (leads : Leads d ls e) (closed : Bool)
    (n : Nat) : d.takeLines n (splitLines (page closed ls)) = .ok e := by
  induction leads generalizing n with
  | nil => rfl
  | @cons d e f l ls first rest ih =>
      cases ls with
      | cons next ls => exact takeLines_lineEnd first ih n
      | nil =>
          cases rest
          cases closed with
          | false =>
              rw [page, if_neg (by decide), List.append_nil]
              exact takeLines_unended first n
          | true =>
              rw [page, if_pos rfl, ← List.append_nil l.ending.text]
              exact takeLines_lineEnd first (fun _ => rfl) n

/-! ### Rows, blocks and files -/

theorem Style.leads_line (s : Style) {ts : List Token} {d e : Draft}
    (taken : ∀ n, d.take n (ts.map (·.text)) = .ok e) : (s.line ts).Leads d e :=
  ⟨_, s.tokens_write ts, taken⟩

/-- What a row adds, outside of a block or inside of one for its verb. -/
theorem Row.leads (r : Row) {d : Draft} {inBlock : Bool}
    (placed : ∀ x ∈ r.directives, d.block = if inBlock then some x.verb.text else none) :
    (r.line inBlock).Leads d (d.addAll r.directives) := by
  cases r with
  | filler lead comment ending =>
      exact ⟨[], tokens_filling lead comment, fun _ => congrArg Except.ok d.addAll_nil.symm⟩
  | directive style x =>
      have here := placed x List.mem_cons_self
      cases inBlock with
      | false => exact style.leads_line fun n => Draft.take_row here n x
      | true => exact style.leads_line fun n => Draft.take_inside here n

theorem leads_rows (rows : List Row) {d : Draft}
    (placed : ∀ x ∈ rows.flatMap Row.directives, d.block = some x.verb.text) :
    Leads d (rows.map (Row.line true)) (d.addAll (rows.flatMap Row.directives)) := by
  induction rows generalizing d with
  | nil =>
      rw [List.flatMap_nil, Draft.addAll_nil]
      exact .nil d
  | cons r rows ih =>
      rw [List.flatMap_cons, Draft.addAll_append]
      exact .cons (r.leads fun x mem => placed x (List.mem_append_left _ mem))
        (ih fun x mem => placed x (List.mem_append_right _ mem))

theorem Piece.leads (p : Piece) {d : Draft} (outside : d.block = none) :
    Leads d p.lines (d.addAll p.directives) := by
  cases p with
  | row r => exact .single (r.leads fun _ _ => outside)
  | block b =>
      let d' : Draft := { d with block := some b.verb.text }
      let e : Draft := d'.addAll (b.rows.flatMap Row.directives)
      have opened : (b.opening.line [b.verb.token, .opening]).Leads d d' :=
        b.opening.leads_line fun n => Draft.take_open outside n b.verb
      have inside : Leads d' (b.rows.map (Row.line true)) e :=
        leads_rows b.rows fun x mem => congrArg (some ·.text) (b.uniform x mem).symm
      have closed : (b.closing.line [.closing]).Leads e { e with block := none } :=
        b.closing.leads_line fun n => Draft.take_close rfl n
      have same : { e with block := none } = d.addAll (Piece.block b).directives := by
        rw [← outside]
        rfl
      rw [← same]
      exact .cons opened (inside.append (.single closed))

theorem leads_pieces (ps : List Piece) {d : Draft} (outside : d.block = none) :
    Leads d (ps.flatMap Piece.lines) (d.addAll (ps.flatMap Piece.directives)) := by
  induction ps generalizing d with
  | nil =>
      rw [List.flatMap_nil, List.flatMap_nil, Draft.addAll_nil]
      exact .nil d
  | cons p ps ih =>
      rw [List.flatMap_cons, List.flatMap_cons, Draft.addAll_append]
      exact (p.leads outside).append (ih outside)

namespace File

variable (f : File)

/-- What the directives of a file say. -/
def manifest : Manifest where
  module := ⟨f.path.text, ""⟩
  requires := f.directives.filterMap Directive.required?
  replaces := .settled (f.directives.filterMap Directive.declared?)

theorem finish_addAll : (Draft.empty.addAll f.directives).finish = .ok f.manifest := by
  have once : f.directives.filterMap Directive.path? = [f.path] := f.once
  simp only [Draft.finish, Draft.addAll, Draft.empty, once, manifest,
    Replacements.declareAll_eq_settled]
  rfl

/-- However a file is laid out, its bytes are read as what its directives say. -/
theorem parse_encode : parse (Utf8.encode f.text) = .ok f.manifest := by
  have lines : Draft.empty.takeLines 1 (splitLines f.text) =
      .ok (Draft.empty.addAll f.directives) :=
    takeLines_page (leads_pieces f.pieces rfl) f.closed 1
  rw [parse, Utf8.decode_encode]
  dsimp only
  rw [parseText, lines]
  exact f.finish_addAll

end File

example :
    parseText "exclude (\r\t\n) // \"(\nmodule\x1f`m`\u2028\u00a0require \"a\"  v1 // )".toList =
      .ok ⟨⟨"m", ""⟩, [⟨"a", "v1"⟩], []⟩ := by
  decide +kernel

end Attribution.GoMod

import Attribution.Proofs.GoMod.Reading

/-!
The statements of a go.mod file, whatever their arguments are: which ones its lines make, given the
block that is open, and what they say. Every file that is read is the list of its statements, and what
is read is what they say.
-/

namespace Attribution.GoMod

open Attribution.Text

/-! ### Outcomes -/

section

variable {ε α β : Type} {x : Except ε α} {b : β} {e : ε}

theorem map_eq_ok_iff {f : α → β} : x.map f = .ok b ↔ ∃ a, x = .ok a ∧ f a = b := by
  cases x <;> simp [Except.map]

theorem map_eq_error_iff {f : α → β} : x.map f = .error e ↔ x = .error e := by
  cases x <;> simp [Except.map]

theorem bind_eq_ok_iff {f : α → Except ε β} :
    x.bind f = .ok b ↔ ∃ a, x = .ok a ∧ f a = .ok b := by
  cases x <;> simp [Except.bind]

theorem bind_eq_error_iff {f : α → Except ε β} :
    x.bind f = .error e ↔ x = .error e ∨ ∃ a, x = .ok a ∧ f a = .error e := by
  cases x <;> simp [Except.bind]

end

/-! ### Replacements -/

/-- What stands on the left of an arrow names a version, or every version of a path. -/
inductive Names : List String → ModuleVersion → Prop
  | every (path : String) : Names [path] ⟨path, ""⟩
  | exact (path version : String) : Names [path, version] ⟨path, version⟩

/-- What stands on the right of an arrow is a directory, or a module whose path is none. -/
inductive StandsIn : List String → Replacement → Prop
  | directory {path : String} (inside : isDirectoryPath path = true) :
    StandsIn [path] (.directory path)
  | module {path : String} (outside : isDirectoryPath path = false) (version : String) :
    StandsIn [path, version] (.module ⟨path, version⟩)

/-- The arguments of a replacement; the first arrow parts what is replaced from what stands in. -/
inductive Declares : List String → ModuleVersion → Replacement → Prop
  | intro {left right : List String} {old : ModuleVersion} {new : Replacement}
    (first : "=>" ∉ left) (names : Names left old) (stands : StandsIn right new) :
    Declares (left ++ "=>" :: right) old new

theorem Declares.arrow_mem {args : List String} {old : ModuleVersion} {new : Replacement}
    (declares : Declares args old new) : "=>" ∈ args := by
  obtain ⟨-, -, -⟩ := declares
  exact List.mem_append_right _ List.mem_cons_self

theorem StandsIn.length_or {right : List String} {new : Replacement} (stands : StandsIn right new) :
    right.length = 1 ∨ right.length = 2 := by
  cases stands with
  | directory => exact .inl rfl
  | module => exact .inr rfl

theorem readReplaced_eq_ok_iff {n : Nat} {left : List String} {old : ModuleVersion} :
    readReplaced n left = .ok old ↔ Names left old := by
  constructor
  · intro read
    unfold readReplaced at read
    split at read <;> cases read
    · exact .every _
    · exact .exact _ _
  · rintro (_ | _) <;> rfl

theorem readReplacement_eq_ok_iff {n : Nat} {right : List String} {new : Replacement} :
    readReplacement n right = .ok new ↔ StandsIn right new := by
  constructor
  · intro read
    unfold readReplacement at read
    split at read
    · split at read <;> cases read
      exact .directory ‹_›
    · split at read <;> cases read
      exact .module (Bool.eq_false_iff.2 ‹_›) _
    · cases read
  · rintro (inside | ⟨outside, version⟩)
    · exact if_pos inside
    · exact if_neg (by rw [outside]; decide)

theorem readReplace_eq_ok_iff {n : Nat} {args : List String} {old : ModuleVersion}
    {new : Replacement} : readReplace n args = .ok (old, new) ↔ Declares args old new := by
  constructor
  · intro read
    by_cases arrow : "=>" ∈ args
    · obtain ⟨left, right, rfl, first⟩ := List.eq_append_cons_of_mem arrow
      rw [readReplace_parts n first] at read
      split at read
      · obtain ⟨v, replaced, rest⟩ := bind_eq_ok_iff.1 read
        obtain ⟨r, replacement, same⟩ := map_eq_ok_iff.1 rest
        cases same
        exact .intro first (readReplaced_eq_ok_iff.1 replaced)
          (readReplacement_eq_ok_iff.1 replacement)
      · cases read
    · rw [readReplace, if_neg (by rwa [List.contains_iff_mem])] at read
      cases read
  · rintro ⟨first, names, stands⟩
    rw [readReplace_append n first stands.length_or, readReplaced_eq_ok_iff.2 names,
      readReplacement_eq_ok_iff.2 stands]
    rfl

/-! ### Statements -/

/-- A verb and its arguments. -/
structure Statement where
  verb : String
  args : List String
  deriving DecidableEq

namespace Statement

/-- What can be said: the arguments are as the verb wants them. -/
inductive Sound : Statement → Prop
  | module (path : String) : Sound ⟨"module", [path]⟩
  | require (path version : String) : Sound ⟨"require", [path, version]⟩
  | replace {args : List String} {old : ModuleVersion} {new : Replacement}
    (declares : Declares args old new) : Sound ⟨"replace", args⟩
  | passed {verb : String} (other : verb ∉ ["module", "require", "replace"])
    (args : List String) : Sound ⟨verb, args⟩

/-- The path that is given to the module. -/
def path? (s : Statement) : Option String :=
  if s.verb = "module" then
    match s.args with
    | [path] => some path
    | _ => none
  else none

/-- What is required. -/
def required? (s : Statement) : Option ModuleVersion :=
  if s.verb = "require" then
    match s.args with
    | [path, version] => some ⟨path, version⟩
    | _ => none
  else none

/-- What is declared to be replaced, and what stands in for it. -/
def declared? (s : Statement) : Option (ModuleVersion × Replacement) :=
  if s.verb = "replace" then (readReplace 0 s.args).toOption else none

theorem path?_eq_some_iff {s : Statement} {path : String} :
    s.path? = some path ↔ s = ⟨"module", [path]⟩ := by
  obtain ⟨verb, args⟩ := s
  unfold path?
  split
  · split <;> simp_all
  · simp_all

theorem required?_eq_some_iff {s : Statement} {v : ModuleVersion} :
    s.required? = some v ↔ s = ⟨"require", [v.path, v.version]⟩ := by
  obtain ⟨verb, args⟩ := s
  obtain ⟨path, version⟩ := v
  unfold required?
  split
  · split <;> simp_all
  · simp_all

theorem declared?_of_ne {s : Statement} (other : s.verb ≠ "replace") : s.declared? = none :=
  if_neg other

theorem declared?_eq_some_iff {s : Statement} {old : ModuleVersion} {new : Replacement} :
    s.declared? = some (old, new) ↔ s.verb = "replace" ∧ Declares s.args old new := by
  unfold declared?
  rw [← readReplace_eq_ok_iff (n := 0)]
  cases readReplace 0 s.args <;> simp [Except.toOption]

end Statement

/-! ### What statements say -/

namespace Draft

/-- What has been read after statements, with the block that is open then. -/
def after (d : Draft) (xs : List Statement) (block : Option String) : Draft where
  module := ((xs.filterMap Statement.path?).getLast?.map (⟨·, ""⟩)).or d.module
  requires := d.requires ++ xs.filterMap Statement.required?
  replaces := d.replaces.declareAll (xs.filterMap Statement.declared?)
  block := block

theorem after_nil (d : Draft) (block : Option String) :
    d.after [] block = { d with block := block } := by
  simp [after, Replacements.declareAll]

theorem after_append (d : Draft) (xs ys : List Statement) (opened block : Option String) :
    (d.after xs opened).after ys block = d.after (xs ++ ys) block := by
  simp only [after, List.filterMap_append, List.getLast?_append, Option.map_or, Option.or_assoc,
    List.append_assoc, Replacements.declareAll, List.foldl_append]

section

variable (d : Draft) (block : Option String)

theorem after_module (path : String) :
    d.after [⟨"module", [path]⟩] block = { d with module := some ⟨path, ""⟩, block := block } := by
  simp [after, Statement.path?, Statement.required?, Statement.declared?, Replacements.declareAll]

theorem after_require (path version : String) :
    d.after [⟨"require", [path, version]⟩] block =
      { d with requires := d.requires ++ [⟨path, version⟩], block := block } := by
  simp [after, Statement.path?, Statement.required?, Statement.declared?, Replacements.declareAll]

theorem after_replace {args : List String} {old : ModuleVersion} {new : Replacement}
    (declares : Declares args old new) :
    d.after [⟨"replace", args⟩] block =
      { d with replaces := d.replaces.declare old new, block := block } := by
  have declared : Statement.declared? ⟨"replace", args⟩ = some (old, new) :=
    Statement.declared?_eq_some_iff.2 ⟨rfl, declares⟩
  simp [after, Statement.path?, Statement.required?, declared, Replacements.declareAll]

theorem after_passed {verb : String} (other : verb ∉ ["module", "require", "replace"])
    (args : List String) : d.after [⟨verb, args⟩] block = { d with block := block } := by
  simp only [List.mem_cons, List.not_mem_nil, or_false, not_or] at other
  simp [after, Statement.path?, Statement.required?, Statement.declared?,
    Replacements.declareAll, other]

end

/-- A directive that is taken in is a sound statement, and what it says is taken in. -/
theorem direct_eq_ok {d e : Draft} {n : Nat} {verb : String} {args : List String}
    (taken : d.direct n verb args = .ok e) :
    Statement.Sound ⟨verb, args⟩ ∧ e = d.after [⟨verb, args⟩] d.block := by
  unfold direct at taken
  split at taken
  next same =>
    subst same
    split at taken <;> cases taken
    exact ⟨.module _, (d.after_module d.block _).symm⟩
  next notModule =>
    split at taken
    next same =>
      subst same
      obtain ⟨v, read, rfl⟩ := map_eq_ok_iff.1 taken
      unfold readRequire at read
      split at read <;> cases read
      exact ⟨.require _ _, (d.after_require d.block _ _).symm⟩
    next notRequire =>
      split at taken
      next same =>
        subst same
        obtain ⟨⟨old, new⟩, read, rfl⟩ := map_eq_ok_iff.1 taken
        have declares := readReplace_eq_ok_iff.1 read
        exact ⟨.replace declares, (d.after_replace d.block declares).symm⟩
      next notReplace =>
        cases taken
        have other : verb ∉ ["module", "require", "replace"] := by
          simp [notModule, notRequire, notReplace]
        exact ⟨.passed other args, (d.after_passed d.block other args).symm⟩

end Draft

/-! ### Lines -/

/-- The statement that the words of a line make, given the block that is open. -/
def statement? (block : Option String) : List String → Option Statement
  | [] => none
  | verb :: args =>
    match block with
    | some opened => if verb :: args = [")"] then none else some ⟨opened, verb :: args⟩
    | none => if args = ["("] then none else some ⟨verb, args⟩

/-- The block that is open after a line. -/
def blockAfter (block : Option String) : List String → Option String
  | [] => block
  | verb :: args =>
    match block with
    | some opened => if verb :: args = [")"] then none else some opened
    | none => if args = ["("] then some verb else none

/-- The statements that lines make one after another. -/
def statements (block : Option String) : List (List String) → List Statement
  | [] => []
  | words :: lines => (statement? block words).toList ++ statements (blockAfter block words) lines

theorem statements_append (block : Option String) (lines more : List (List String)) :
    statements block (lines ++ more) =
      statements block lines ++ statements (lines.foldl blockAfter block) more := by
  induction lines generalizing block with
  | nil => rfl
  | cons words lines ih =>
      rw [List.cons_append, statements, ih, statements, List.append_assoc, List.foldl_cons]

theorem args_subset {block : Option String} {words : List String} {s : Statement}
    (made : statement? block words = some s) : s.args ⊆ words := by
  unfold statement? at made
  split at made
  · cases made
  · split at made <;> split at made <;> cases made
    · exact List.Subset.refl _
    · exact List.subset_cons_self _ _

/-- The arguments of a statement stand on one line. -/
theorem exists_of_mem_statements {block : Option String} {lines : List (List String)}
    {s : Statement} (mem : s ∈ statements block lines) : ∃ words ∈ lines, s.args ⊆ words := by
  induction lines generalizing block with
  | nil => cases mem
  | cons words lines ih =>
      obtain here | later := List.mem_append.1 mem
      · exact ⟨words, List.mem_cons_self, args_subset (Option.mem_toList.1 here)⟩
      · obtain ⟨other, among, inside⟩ := ih later
        exact ⟨other, List.mem_cons_of_mem words among, inside⟩

namespace Draft

/-- A line that is taken in makes at most one statement, a sound one. -/
theorem take_eq_ok {d e : Draft} {n : Nat} {words : List String} (taken : d.take n words = .ok e) :
    (∀ s ∈ statement? d.block words, s.Sound) ∧
      e = d.after (statement? d.block words).toList (blockAfter d.block words) := by
  unfold take at taken
  split at taken
  next =>
    cases taken
    exact ⟨by simp [statement?], (d.after_nil d.block).symm⟩
  next verb args =>
    split at taken
    next opened inside =>
      rw [inside, statement?, blockAfter]
      split at taken
      next closes =>
        rw [if_pos closes, if_pos closes]
        cases taken
        exact ⟨by simp, (d.after_nil none).symm⟩
      next more =>
        rw [if_neg more, if_neg more]
        obtain ⟨sound, same⟩ := direct_eq_ok taken
        rw [inside] at same
        exact ⟨fun s made => Option.some.inj made ▸ sound, same⟩
    next outside =>
      rw [outside, statement?, blockAfter]
      split at taken
      next known =>
        split at taken
        next opens =>
          rw [if_pos opens, if_pos opens]
          cases taken
          exact ⟨by simp, (d.after_nil (some verb)).symm⟩
        next plain =>
          rw [if_neg plain, if_neg plain]
          obtain ⟨sound, same⟩ := direct_eq_ok taken
          rw [outside] at same
          exact ⟨fun s made => Option.some.inj made ▸ sound, same⟩
      next => cases taken

/-- Lines that are taken in one after another are read as tokens, and their statements are taken in. -/
theorem takeLines_eq_ok {d e : Draft} {n : Nat} {lines : List (List Char)}
    (taken : d.takeLines n lines = .ok e) :
    ∃ words, lines.map tokens = words.map .ok ∧
      (∀ s ∈ statements d.block words, s.Sound) ∧
      e = d.after (statements d.block words) (words.foldl blockAfter d.block) := by
  induction lines generalizing d n with
  | nil =>
      obtain rfl := Except.ok.inj taken
      exact ⟨[], rfl, nofun, (d.after_nil d.block).symm⟩
  | cons line lines ih =>
      rw [takeLines] at taken
      split at taken
      next => cases taken
      next ws read =>
        split at taken
        next => cases taken
        next f first =>
          obtain ⟨sound, same⟩ := take_eq_ok first
          obtain ⟨words, readAll, soundAll, sameAll⟩ := ih taken
          have next : f.block = blockAfter d.block ws := congrArg Draft.block same
          rw [next] at soundAll sameAll
          refine ⟨ws :: words, ?_, fun s mem => ?_, ?_⟩
          · rw [List.map_cons, List.map_cons, read, readAll]
          · obtain here | later := List.mem_append.1 mem
            · exact sound s (Option.mem_toList.1 here)
            · exact soundAll s later
          · rw [sameAll, same, after_append]
            rfl

end Draft

/-- What a list of statements comes to. -/
structure Yields (xs : List Statement) (m : Manifest) : Prop where
  module : (xs.filterMap Statement.path?).getLast?.map (⟨·, ""⟩) = some m.module
  requires : m.requires = xs.filterMap Statement.required?
  replaces : m.replaces = .settled (xs.filterMap Statement.declared?)

/-- The words that stand on the lines of a file. -/
def Reads (data : List UInt8) (lines : List (List String)) : Prop :=
  ∃ text, Utf8.decode data = .ok text ∧ (splitLines text).map tokens = lines.map .ok

/-- What is read of a file is what the statements on its lines come to, all of which are sound. -/
theorem yields_of_parse {data : List UInt8} {m : Manifest} (accepted : parse data = .ok m) :
    ∃ lines, Reads data lines ∧ (∀ s ∈ statements none lines, s.Sound) ∧
      Yields (statements none lines) m := by
  unfold parse at accepted
  split at accepted
  next => cases accepted
  next text decoded =>
    obtain ⟨d, taken, finished⟩ := bind_eq_ok_iff.1 accepted
    obtain ⟨lines, read, sound, rfl⟩ := Draft.takeLines_eq_ok taken
    refine ⟨lines, ⟨text, decoded, read⟩, sound, ?_⟩
    unfold Draft.finish at finished
    split at finished
    next => cases finished
    next => cases finished
    next module closed named =>
      cases finished
      refine ⟨?_, List.nil_append _, Replacements.declareAll_eq_settled _⟩
      rw [← named]
      exact Option.or_none.symm

theorem tokens_ne_empty {line : List Char} {words : List String} (read : tokens line = .ok words) :
    "" ∉ words := by
  obtain ⟨texts, -, rfl⟩ := map_eq_ok_iff.1 read
  intro mem
  obtain ⟨text, some, same⟩ := List.mem_map.1 mem
  have empty : text = [] := String.ofList_eq_empty_iff.1 same
  simp [empty] at some

end Attribution.GoMod

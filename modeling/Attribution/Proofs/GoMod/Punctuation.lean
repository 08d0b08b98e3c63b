import Attribution.Proofs.GoMod.Statement

/-!
What becomes of brackets and arrows. A manifest holds the arguments of the statements that count, so
that punctuation is in it just where such a statement has it as an argument. A line that opens a block
in a block is an argument list like any other.
-/

namespace Attribution

def ModuleVersion.data (v : ModuleVersion) : List String := [v.path, v.version]

def Replacement.data : Replacement → List String
  | directory path => [path]
  | module v => v.data

/-- The paths and versions of a manifest. -/
def Manifest.data (m : Manifest) : List String :=
  m.module.data ++ (m.requires.flatMap ModuleVersion.data ++
    m.replaces.flatMap fun e => e.1.data ++ e.2.data)

namespace GoMod

open Attribution.Text

/-- The tokens that are punctuation. -/
def marks : List String := ["(", ")", "=>"]

namespace Statement

/-- The arguments that a statement gives as paths and versions; the first arrow of a replacement is
none. -/
def data (s : Statement) : List String :=
  if s.verb = "module" ∨ s.verb = "require" then s.args
  else if s.verb = "replace" then s.args.erase "=>"
  else []

/-- A later statement takes the place of an earlier one: both give the path of the module, or declare
what stands in for one version. -/
def Supersedes (later earlier : Statement) : Prop :=
  (later.path?.isSome ∧ earlier.path?.isSome) ∨
    ∃ old, (∃ new, later.declared? = some (old, new)) ∧ ∃ new, earlier.declared? = some (old, new)

/-- No later statement takes the place of this one. -/
def Counts (s : Statement) (xs : List Statement) : Prop :=
  ∃ before after, xs = before ++ s :: after ∧ ∀ t ∈ after, ¬ t.Supersedes s

theorem Counts.mem {s : Statement} {xs : List Statement} (counts : s.Counts xs) : s ∈ xs := by
  obtain ⟨before, after, rfl, -⟩ := counts
  exact List.mem_append_right before List.mem_cons_self

/-- The path of the module is the one that is given last. -/
theorem counts_module_iff {xs : List Statement} {path : String} :
    Counts ⟨"module", [path]⟩ xs ↔ (xs.filterMap path?).getLast? = some path := by
  have given : path? ⟨"module", [path]⟩ = some path := path?_eq_some_iff.2 rfl
  have plain : declared? ⟨"module", [path]⟩ = none := declared?_of_ne (by simp)
  rw [List.getLast?_filterMap, List.findSome?_eq_some_iff]
  constructor
  · rintro ⟨before, after, rfl, last⟩
    refine ⟨after.reverse, _, before.reverse, by simp, given, fun t mem => ?_⟩
    by_contra another
    refine last t (List.mem_reverse.1 mem) (.inl ⟨Option.ne_none_iff_isSome.1 another, ?_⟩)
    rw [given, Option.isSome_some]
  · rintro ⟨after, s, before, split, said, none⟩
    obtain rfl := path?_eq_some_iff.1 said
    refine ⟨before.reverse, after.reverse, ?_, ?_⟩
    · rw [← List.reverse_reverse xs, split]
      simp
    · rintro t mem (⟨another, -⟩ | ⟨old, -, new, declared⟩)
      · rw [none t (List.mem_reverse.1 mem)] at another
        cases another
      · rw [plain] at declared
        cases declared

/-- Every requirement counts. -/
theorem counts_require_iff {xs : List Statement} {v : ModuleVersion} :
    Counts ⟨"require", v.data⟩ xs ↔ v ∈ xs.filterMap required? := by
  have said : required? ⟨"require", v.data⟩ = some v := required?_eq_some_iff.2 rfl
  constructor
  · intro counts
    exact List.mem_filterMap.2 ⟨_, counts.mem, said⟩
  · intro mem
    obtain ⟨s, among, required⟩ := List.mem_filterMap.1 mem
    obtain rfl := required?_eq_some_iff.1 required
    obtain ⟨before, after, split⟩ := List.append_of_mem among
    refine ⟨before, after, split, ?_⟩
    rintro t - (⟨-, named⟩ | ⟨old, -, new, declared⟩)
    · cases named
    · rw [declared?_of_ne (by simp)] at declared
      cases declared

/-- Of the replacements that are declared for one version, the last counts. -/
theorem exists_counts_replace_iff {xs : List Statement} {e : ModuleVersion × Replacement} :
    (∃ s, Counts s xs ∧ s.declared? = some e) ↔
      e ∈ Replacements.settled (xs.filterMap declared?) := by
  rw [Replacements.mem_settled_iff]
  constructor
  · rintro ⟨s, ⟨before, after, rfl, last⟩, declared⟩
    refine ⟨before.filterMap declared?, after.filterMap declared?, ?_, fun f mem same => ?_⟩
    · rw [List.filterMap_append, List.filterMap_cons, declared]
    · obtain ⟨t, among, again⟩ := List.mem_filterMap.1 mem
      exact last t among (.inr ⟨e.1, ⟨f.2, by rw [again, ← same]⟩, e.2, declared⟩)
  · rintro ⟨before, after, split, last⟩
    obtain ⟨first, rest, rfl, -, more⟩ := List.filterMap_eq_append_iff.1 split
    obtain ⟨idle, s, later, rfl, -, declared, rfl⟩ := List.filterMap_eq_cons_iff.1 more
    refine ⟨s, ⟨first ++ idle, later, (List.append_assoc ..).symm, ?_⟩, declared⟩
    rintro t mem (⟨-, named⟩ | ⟨old, ⟨new, again⟩, new', same⟩)
    · obtain ⟨path, given⟩ := Option.isSome_iff_exists.1 named
      obtain rfl := path?_eq_some_iff.1 given
      rw [declared?_of_ne (by simp)] at declared
      cases declared
    · rw [declared] at same
      cases same
      exact last (old, new) (List.mem_filterMap.2 ⟨t, mem, again⟩) rfl

/-- The arguments of a replacement are what is replaced and what stands in. -/
theorem mem_erase_iff {args : List String} {old : ModuleVersion} {new : Replacement}
    (declares : Declares args old new) {x : String} (some : x ≠ "") :
    x ∈ args.erase "=>" ↔ x ∈ old.data ++ new.data := by
  obtain ⟨first, names, stands⟩ := declares
  rw [List.erase_append_right _ first, List.erase_cons_head, List.mem_append, List.mem_append]
  refine or_congr ?_ ?_
  · cases names <;> simp [ModuleVersion.data, some]
  · cases stands <;> simp [Replacement.data, ModuleVersion.data]

theorem data_module (args : List String) : data ⟨"module", args⟩ = args := if_pos (.inl rfl)

theorem data_require (args : List String) : data ⟨"require", args⟩ = args := if_pos (.inr rfl)

theorem data_replace (args : List String) : data ⟨"replace", args⟩ = args.erase "=>" := by
  rw [data, if_neg (by simp), if_pos rfl]

theorem data_passed {verb : String} (other : verb ∉ ["module", "require", "replace"])
    (args : List String) : data ⟨verb, args⟩ = [] := by
  simp only [List.mem_cons, List.not_mem_nil, or_false, not_or] at other
  rw [data, if_neg (by simp [other]), if_neg other.2.2]

end Statement

/-- What stands in a manifest are the arguments of the statements that count. -/
theorem Yields.mem_data_iff {xs : List Statement} {m : Manifest} (yields : Yields xs m)
    (sound : ∀ s ∈ xs, s.Sound) {x : String} (some : x ≠ "") :
    x ∈ m.data ↔ ∃ s : Statement, s.Counts xs ∧ x ∈ s.data := by
  obtain ⟨path, last, named⟩ := Option.map_eq_some_iff.1 yields.module
  have inModule (y : String) (given : x ∈ [y]) : x ∈ ModuleVersion.data ⟨y, ""⟩ :=
    List.mem_append_left [""] given
  rw [Manifest.data, List.mem_append, List.mem_append, yields.requires, yields.replaces]
  constructor
  · rintro (mem | mem | mem)
    · refine ⟨_, Statement.counts_module_iff.2 last, ?_⟩
      rw [Statement.data_module]
      simpa [← named, ModuleVersion.data, some] using mem
    · obtain ⟨v, required, inside⟩ := List.mem_flatMap.1 mem
      refine ⟨_, Statement.counts_require_iff.2 required, ?_⟩
      rwa [Statement.data_require]
    · obtain ⟨e, declared, inside⟩ := List.mem_flatMap.1 mem
      obtain ⟨s, counts, same⟩ := Statement.exists_counts_replace_iff.2 declared
      obtain ⟨verb, declares⟩ := Statement.declared?_eq_some_iff.1 same
      refine ⟨s, counts, ?_⟩
      have replace : s = ⟨"replace", s.args⟩ := by rw [← verb]
      rw [replace, Statement.data_replace]
      exact (Statement.mem_erase_iff declares some).2 inside
  · rintro ⟨s, counts, mem⟩
    cases sound s counts.mem with
    | module given =>
        rw [Statement.counts_module_iff, last] at counts
        rw [Statement.data_module] at mem
        cases counts
        exact .inl (named ▸ inModule path mem)
    | require path version =>
        rw [Statement.data_require] at mem
        have required := Statement.counts_require_iff (v := ⟨path, version⟩).1 counts
        exact .inr (.inl (List.mem_flatMap.2 ⟨_, required, mem⟩))
    | replace declares =>
        rw [Statement.data_replace] at mem
        have declared := Statement.exists_counts_replace_iff.1
          ⟨_, counts, Statement.declared?_eq_some_iff.2 ⟨rfl, declares⟩⟩
        refine .inr (.inr (List.mem_flatMap.2 ⟨_, declared, ?_⟩))
        exact (Statement.mem_erase_iff declares some).1 mem
    | passed other args =>
        rw [Statement.data_passed other] at mem
        cases mem

/-- A line that opens a block in a block is an argument list like any other: a requirement, or passed
over. -/
theorem Yields.required_of_nested {lines : List (List String)} {m : Manifest}
    (yields : Yields (statements none lines) m) (sound : ∀ s ∈ statements none lines, s.Sound)
    {before after : List (List String)} {verb block : String}
    (nested : lines = before ++ [verb, "("] :: after) (known : verb ∈ directives)
    (opened : before.foldl blockAfter none = some block) :
    (block = "require" ∧ ⟨verb, "("⟩ ∈ m.requires) ∨
      block ∉ ["module", "require", "replace"] := by
  have mem : ⟨block, [verb, "("]⟩ ∈ statements none lines := by
    have here : statement? (some block) [verb, "("] = some ⟨block, [verb, "("]⟩ := if_neg (by simp)
    rw [nested, statements_append, opened, statements, here]
    exact List.mem_append_right _ List.mem_cons_self
  generalize made : Statement.mk block [verb, "("] = s at mem
  cases sound s mem with
  | module => cases made
  | require path version =>
      cases made
      refine .inl ⟨rfl, ?_⟩
      rw [yields.requires]
      exact List.mem_filterMap.2 ⟨_, mem, Statement.required?_eq_some_iff.2 rfl⟩
  | replace declares =>
      cases made
      obtain arrow | other := List.mem_cons.1 declares.arrow_mem
      · exact absurd (arrow ▸ known) (by decide)
      · exact absurd other (by decide)
  | passed other args =>
      cases made
      exact .inr other

/-- Punctuation is in a manifest just where a statement that counts has it as an argument, and a file
that opens a block in a block is only read where the outer one takes the line for a requirement or is
passed over. -/
theorem punctuation_of_parse {data : List UInt8} {m : Manifest} (accepted : parse data = .ok m) :
    ∃ lines, Reads data lines ∧
      (∀ mark ∈ marks, mark ∈ m.data ↔
        ∃ s : Statement, s.Counts (statements none lines) ∧ mark ∈ s.data) ∧
      ∀ before verb after block, lines = before ++ [verb, "("] :: after → verb ∈ directives →
        before.foldl blockAfter none = some block →
          (block = "require" ∧ ⟨verb, "("⟩ ∈ m.requires) ∨
            block ∉ ["module", "require", "replace"] := by
  obtain ⟨lines, reads, sound, yields⟩ := yields_of_parse accepted
  refine ⟨lines, reads, fun mark known => ?_, fun before verb after block => ?_⟩
  · have some : mark ≠ "" := fun empty => absurd (empty ▸ known) (by decide)
    exact yields.mem_data_iff sound some
  · exact yields.required_of_nested sound

/-- A bracket in a module directive and one in a replacement, both of which later ones take the place
of. -/
theorem punctuation_of_parse_superseded :
    let data := Utf8.encode
      "module )\nmodule m\nexclude (\nrequire (\n)\nreplace a => ( v1\nreplace a => b v1".toList
    let m : Manifest := ⟨⟨"m", ""⟩, [], [(⟨"a", ""⟩, .module ⟨"b", "v1"⟩)]⟩
    parse data = .ok m ∧
      ∃ lines, Reads data lines ∧
        (∀ mark ∈ marks, mark ∈ m.data ↔
          ∃ s : Statement, s.Counts (statements none lines) ∧ mark ∈ s.data) ∧
        ∀ before verb after block, lines = before ++ [verb, "("] :: after → verb ∈ directives →
          before.foldl blockAfter none = some block →
            (block = "require" ∧ ⟨verb, "("⟩ ∈ m.requires) ∨
              block ∉ ["module", "require", "replace"] := by
  intro data m
  have accepted : parse data = .ok m := by decide +kernel
  exact ⟨accepted, punctuation_of_parse accepted⟩

/-- A block in a block of requirements, in a file without quotes. -/
theorem nested_required :
    let text := "module m\nrequire (\nrequire (\na v1\n)\n".toList
    let m : Manifest := ⟨⟨"m", ""⟩, [⟨"require", "("⟩, ⟨"a", "v1"⟩], []⟩
    ('"' ∉ text ∧ '`' ∉ text) ∧ parse (Utf8.encode text) = .ok m ∧
      ⟨"require", "("⟩ ∈ m.requires ∧ "(" ∈ m.data := by
  decide +kernel

end GoMod

end Attribution

import Attribution.Proofs.GoMod.Statement
import Attribution.Proofs.Text.Split

/-!
What the identity of a requirement tells. A requirement that a go.mod file declares is read off its
identity: the path ends at the first at sign, the version at the first arrow, and what follows names a
directory just where it looks like one.
-/

namespace Attribution

open Attribution.Text

/-! ### What is declared -/

/-- A version of a module, and not every version. -/
structure ModuleVersion.Exact (v : ModuleVersion) : Prop where
  path : v.path ≠ ""
  version : v.version ≠ ""

/-- A replacement as a go.mod file can declare it. -/
inductive Replacement.Declared : Replacement → Prop
  | directory {path : String} (inside : GoMod.isDirectoryPath path = true) :
    Declared (.directory path)
  | module {v : ModuleVersion} (outside : GoMod.isDirectoryPath v.path = false) (exact : v.Exact) :
    Declared (.module v)

/-- A requirement as a go.mod file can declare it. -/
structure Requirement.Declared (r : Requirement) : Prop where
  exact : r.version.Exact
  replacement : ∀ new, r.replacement = some new → new.Declared

namespace GoMod

theorem StandsIn.declared {right : List String} {new : Replacement} (stands : StandsIn right new)
    (some : "" ∉ right) : new.Declared := by
  cases stands with
  | directory inside => exact .directory inside
  | module outside version =>
      simp only [List.mem_cons, List.not_mem_nil, or_false, not_or] at some
      exact .module outside ⟨Ne.symm some.1, Ne.symm some.2⟩

/-- No argument of a statement is empty. -/
theorem Reads.args_ne_empty {data : List UInt8} {lines : List (List String)}
    (reads : Reads data lines) {block : Option String} {s : Statement}
    (made : s ∈ statements block lines) : "" ∉ s.args := by
  obtain ⟨text, -, read⟩ := reads
  obtain ⟨words, mem, inside⟩ := exists_of_mem_statements made
  obtain ⟨line, -, ok⟩ := List.mem_map.1 (read ▸ List.mem_map_of_mem mem)
  exact fun given => tokens_ne_empty ok (inside given)

variable {data : List UInt8} {m : Manifest}

theorem exact_of_requires (accepted : parse data = .ok m) {v : ModuleVersion}
    (mem : v ∈ m.requires) : v.Exact := by
  obtain ⟨lines, reads, -, yields⟩ := yields_of_parse accepted
  rw [yields.requires] at mem
  obtain ⟨s, made, required⟩ := List.mem_filterMap.1 mem
  obtain rfl := Statement.required?_eq_some_iff.1 required
  have some := reads.args_ne_empty made
  simp only [List.mem_cons, List.not_mem_nil, or_false, not_or] at some
  exact ⟨Ne.symm some.1, Ne.symm some.2⟩

theorem declared_of_replaces (accepted : parse data = .ok m) {old : ModuleVersion}
    {new : Replacement} (mem : (old, new) ∈ m.replaces) : new.Declared := by
  obtain ⟨lines, reads, -, yields⟩ := yields_of_parse accepted
  rw [yields.replaces, Replacements.mem_settled_iff] at mem
  obtain ⟨before, after, split, -⟩ := mem
  have declared : (old, new) ∈ (statements none lines).filterMap Statement.declared? := by
    rw [split]
    exact List.mem_append_right _ List.mem_cons_self
  obtain ⟨⟨verb, args⟩, made, same⟩ := List.mem_filterMap.1 declared
  obtain ⟨-, declares⟩ := Statement.declared?_eq_some_iff.1 same
  have some := reads.args_ne_empty made
  cases declares with
  | intro first names stands =>
      exact stands.declared fun empty =>
        some (List.mem_append_right _ (List.mem_cons_of_mem _ empty))

/-- What a file requires is a version of a module, and what stands in for it is a directory, or a
version of a module whose path names none. -/
theorem declared_of_parse {p : PlacedManifest} (accepted : parse data = .ok p.manifest)
    {r : Requirement} (mem : r ∈ p.requirements) : r.Declared := by
  obtain ⟨v, required, rfl⟩ := List.mem_map.1 mem
  refine ⟨exact_of_requires accepted required, fun new here => ?_⟩
  have effective : p.manifest.replacementFor v = some new := PlacedManifest.effective_eq_some here
  obtain found | ⟨-, found⟩ := Option.or_eq_some_iff.1 effective
  · exact declared_of_replaces accepted (Replacements.mem_of_find? found)
  · exact declared_of_replaces accepted (Replacements.mem_of_find? found)

end GoMod

/-! ### What an identity tells -/

/-- An arrow that follows a text without arrows is the first one. -/
theorem before?_arrow {v : List Char} (noArrow : occursIn ['=', '>'] v = false) (s : List Char) :
    before? ['=', '>'] (v ++ '=' :: '>' :: s) = some v := by
  induction v with
  | nil => rfl
  | cons c v ih =>
      obtain ⟨start, later⟩ := Bool.or_eq_false_iff.1 noArrow
      have apart : ['=', '>'].isPrefixOf (c :: (v ++ '=' :: '>' :: s)) = false := by
        cases v with
        | nil => simp [List.isPrefixOf]
        | cons d v => exact start
      rw [List.cons_append, before?, apart, ih later]
      rfl

/-- A path in front of an at sign is a directory's if the whole is. -/
theorem isDirectoryPath_of_append {path whole : String} {s : List Char} (some : path ≠ "")
    (same : whole.toList = path.toList ++ '@' :: s)
    (inside : GoMod.isDirectoryPath whole = true) : GoMod.isDirectoryPath path = true := by
  have some : path.toList ≠ [] := by simpa using some
  unfold GoMod.isDirectoryPath at inside ⊢
  rw [same] at inside
  generalize path.toList = p at some inside
  -- What makes a directory's path are its first three characters at most, none of them an at sign.
  rcases p with _ | ⟨a, _ | ⟨b, _ | ⟨c, p⟩⟩⟩
  · exact absurd rfl some
  all_goals split at inside <;> simp_all

/-- The characters that part an identity do not occur in the parts before them. -/
structure Requirement.Separable (r : Requirement) : Prop where
  path : '@' ∉ r.version.path.toList
  version : occursIn ['=', '>'] r.version.version.toList = false
  replacement : ∀ v, r.replacement = some (.module v) → '@' ∉ v.path.toList

namespace ModuleVersion.Exact

variable {v w : ModuleVersion}

theorem toList_text (exact : v.Exact) :
    v.text.toList = v.path.toList ++ '@' :: v.version.toList := by
  rw [ModuleVersion.text, if_neg exact.version, String.toList_append, String.toList_append,
    List.append_assoc]
  rfl

/-- A version is read off its text. -/
theorem eq_of_text (hv : v.Exact) (hw : w.Exact) (inV : '@' ∉ v.path.toList)
    (inW : '@' ∉ w.path.toList) (same : v.text = w.text) : v = w := by
  have parts := congrArg String.toList same
  rw [hv.toList_text, hw.toList_text] at parts
  obtain ⟨path, version⟩ := append_cons_inj inV inW parts
  exact congrArg₂ ModuleVersion.mk (String.toList_inj.1 path) (String.toList_inj.1 version)

end ModuleVersion.Exact

/-- A replacement is read off its text: no module looks like a directory. -/
theorem Replacement.Declared.eq_of_text {a b : Replacement} (ha : a.Declared) (hb : b.Declared)
    (inA : ∀ v, a = .module v → '@' ∉ v.path.toList)
    (inB : ∀ v, b = .module v → '@' ∉ v.path.toList) (same : a.text = b.text) : a = b := by
  have apart {path : String} {v : ModuleVersion} (inside : GoMod.isDirectoryPath path = true)
      (outside : GoMod.isDirectoryPath v.path = false) (exact : v.Exact) : path ≠ v.text := by
    intro same
    have directory := isDirectoryPath_of_append exact.path (same ▸ exact.toList_text) inside
    rw [outside] at directory
    cases directory
  cases ha with
  | directory inside =>
      cases hb with
      | directory => exact congrArg Replacement.directory same
      | module outside exact => exact absurd same (apart inside outside exact)
  | module outside exact =>
      cases hb with
      | directory inside => exact absurd same.symm (apart inside outside exact)
      | module _ exact' =>
          exact congrArg Replacement.module (exact.eq_of_text exact' (inA _ rfl) (inB _ rfl) same)

namespace Requirement

/-- What follows the version in an identity. -/
def stand (r : Requirement) : List Char :=
  match r.replacement with
  | none => []
  | some new => '=' :: '>' :: new.text.toList

theorem Declared.toList_id {r : Requirement} (declared : r.Declared) :
    r.id.toList = r.version.path.toList ++ '@' :: (r.version.version.toList ++ r.stand) := by
  have text := declared.exact.toList_text
  unfold id stand
  cases r.replacement with
  | none => rw [text, List.append_nil]
  | some new =>
      dsimp only
      rw [String.toList_append, String.toList_append, text, List.append_assoc, List.append_assoc]
      rfl

/-- The first arrow behind the path follows the version, where there is one. -/
theorem before?_stand (r : Requirement) {v : List Char}
    (noArrow : occursIn ['=', '>'] v = false) :
    before? ['=', '>'] (v ++ r.stand) = r.replacement.map fun _ => v := by
  unfold stand
  cases r.replacement with
  | none =>
      rw [List.append_nil]
      exact (GoMod.before?_eq_none_iff (by decide) v).2 noArrow
  | some new => exact before?_arrow noArrow new.text.toList

/-- A requirement is read off its identity. -/
theorem Declared.eq_of_id {q r : Requirement} (hq : q.Declared) (hr : r.Declared)
    (inQ : q.Separable) (inR : r.Separable) (same : q.id = r.id) : q = r := by
  have parts := congrArg String.toList same
  rw [hq.toList_id, hr.toList_id] at parts
  obtain ⟨path, rest⟩ := append_cons_inj inQ.path inR.path parts
  have arrow := congrArg (before? ['=', '>']) rest
  rw [q.before?_stand inQ.version, r.before?_stand inR.version] at arrow
  obtain ⟨v, old⟩ := q
  obtain ⟨w, new⟩ := r
  have whole (version : v.version.toList = w.version.toList) : v = w :=
    congrArg₂ ModuleVersion.mk (String.toList_inj.1 path) (String.toList_inj.1 version)
  cases old with
  | none =>
      cases new with
      | some b => cases arrow
      | none =>
          rw [stand, stand, List.append_nil, List.append_nil] at rest
          rw [whole rest]
  | some a =>
      cases new with
      | none => cases arrow
      | some b =>
          have version : v.version.toList = w.version.toList := Option.some.inj arrow
          rw [version] at rest
          have text := List.append_cancel_left rest
          simp only [stand, List.cons.injEq, true_and] at text
          have replacement := (hq.replacement a rfl).eq_of_text (hr.replacement b rfl)
            (fun u h => inQ.replacement u (congrArg some h))
            (fun u h => inR.replacement u (congrArg some h)) (String.toList_inj.1 text)
          rw [whole version, replacement]

end Requirement

namespace GoMod

/-- Where no at sign stands in a path and no arrow in a required version, requirements of manifests
that were read with the same identity are the same. Arrows in paths do no harm. -/
theorem eq_of_id_of_parse {data data' : List UInt8} {p p' : PlacedManifest}
    (accepted : parse data = .ok p.manifest) (accepted' : parse data' = .ok p'.manifest)
    {r r' : Requirement} (mem : r ∈ p.requirements) (mem' : r' ∈ p'.requirements)
    (separable : r.Separable) (separable' : r'.Separable) (same : r.id = r'.id) : r = r' :=
  (declared_of_parse accepted mem).eq_of_id (declared_of_parse accepted' mem') separable separable'
    same

/-- A directory whose path has an at sign in it, declared for one version and for every one. -/
theorem eq_of_id_of_parse_directory :
    let text := "module m\nrequire a v1\nreplace a v1 => ../b@v2".toList
    let text' := "module n\nrequire \"a\" v1 // a\nreplace a => ../b@v2".toList
    let p : PlacedManifest :=
      ⟨⟨⟨"m", ""⟩, [⟨"a", "v1"⟩], [(⟨"a", "v1"⟩, .directory "../b@v2")]⟩, some ⟨"/", []⟩⟩
    let p' : PlacedManifest :=
      ⟨⟨⟨"n", ""⟩, [⟨"a", "v1"⟩], [(⟨"a", ""⟩, .directory "../b@v2")]⟩, some ⟨"/", []⟩⟩
    let r : Requirement := ⟨⟨"a", "v1"⟩, p.effective ⟨"a", "v1"⟩⟩
    let r' : Requirement := ⟨⟨"a", "v1"⟩, p'.effective ⟨"a", "v1"⟩⟩
    parse (Utf8.encode text) = .ok p.manifest ∧ parse (Utf8.encode text') = .ok p'.manifest ∧
      r ∈ p.requirements ∧ r' ∈ p'.requirements ∧ r.Separable ∧ r'.Separable ∧
        r.id = r'.id ∧ r = r' := by
  intro text text' p p' r r'
  have accepted : parse (Utf8.encode text) = .ok p.manifest := by decide +kernel
  have accepted' : parse (Utf8.encode text') = .ok p'.manifest := by decide +kernel
  have mem : r ∈ p.requirements := by decide
  have mem' : r' ∈ p'.requirements := by decide
  have separable : r.Separable := ⟨by decide, by decide, nofun⟩
  have separable' : r'.Separable := ⟨by decide, by decide, nofun⟩
  have same : r.id = r'.id := by decide
  exact ⟨accepted, accepted', mem, mem', separable, separable', same,
    eq_of_id_of_parse accepted accepted' mem mem' separable separable' same⟩

end GoMod

end Attribution

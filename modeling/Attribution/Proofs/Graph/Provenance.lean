import Attribution.Proofs.Content
import Attribution.Proofs.Graph.Constancy
import Attribution.Proofs.Graph.Coverage

/-!
Where the license texts of a tree come from. A module is kept under what its requirement says, but a
directory that replaces a module is looked up from the manifest that declares it. So a node carries
what was found for some place of its module in the tree, which need not be what is found for its own.
-/

namespace Attribution

variable {σ : Type}

namespace Cache

/-- The places in a tree: its nodes, each with the manifest that declares it. What hangs on a node is
declared by the manifest that the module of the node is kept with. -/
inductive Declares (c : Cache) (root : PlacedManifest) (ns : List Node) :
    PlacedManifest → Node → Prop
  | first {n : Node} (h : n ∈ ns) : Declares c root ns root n
  | next {p q : PlacedManifest} {n m : Node} {e : Entry} (above : Declares c root ns p n)
      (kept : c.find? n.id = some e) (known : e.manifest = some q) (h : m ∈ n.dependencies) :
      Declares c root ns q m

variable {c c' : Cache} {root p : PlacedManifest} {ns ms : List Node} {n : Node}

theorem Declares.grow (declares : c.Declares root ns p n) (le : c.LE c') :
    c'.Declares root ns p n := by
  induction declares with
  | first h => exact .first h
  | next above kept known h ih =>
      obtain ⟨e', kept', grown⟩ := le _ _ kept
      exact .next ih kept' (grown.manifest.trans known) h

theorem Declares.widen (declares : c.Declares root ns p n) (wider : ∀ m ∈ ns, m ∈ ms) :
    c.Declares root ms p n := by
  induction declares with
  | first h => exact .first (wider _ h)
  | next above kept known h ih => exact .next ih kept known h

theorem Declares.under {m : PlacedManifest} {top : Node} {e : Entry}
    (declares : c.Declares m top.dependencies p n) (given : top ∈ ns)
    (kept : c.find? top.id = some e) (known : e.manifest = some m) : c.Declares root ns p n := by
  induction declares with
  | first h => exact .next (.first given) kept known h
  | next above kept known h ih => exact .next ih kept known h

theorem Declares.mem_nodes (declares : c.Declares root ns p n) : n ∈ Node.nodes ns := by
  induction declares with
  | first h => exact Node.mem_nodes_of_mem h
  | next above kept known h ih => exact Node.mem_nodes_trans ih h

/-- Where nothing hangs on a node without a license, and the licensed ones show what is kept, every
node of a tree has a place. -/
theorem declares_of_mem_nodes (alone : ∀ m ∈ Node.nodes ns, m.license = none → m.dependencies = [])
    (shows : ∀ m ∈ Node.nodes ns, m.license.isSome → c.Shows m) (h : n ∈ Node.nodes ns) :
    ∃ p, c.Declares root ns p n := by
  revert n
  apply Node.nodes_induction
  · intro n given
    exact ⟨root, .first given⟩
  · intro n inside placed m hm
    obtain ⟨p, place⟩ := placed
    cases licensed : n.license with
    | none =>
        rw [alone n inside licensed] at hm
        cases hm
    | some l =>
        obtain ⟨e, kept, -, -, children⟩ := shows n inside (by rw [licensed]; rfl)
        cases known : e.manifest with
        | none =>
            rw [Entry.required, known, List.map_eq_nil_iff] at children
            rw [children] at hm
            cases hm
        | some q => exact ⟨q, .next place kept known hm⟩

end Cache

/-- The license text of the node is what the resolver found for it below the manifest. -/
def Builder.Supplies (b : Builder σ) (parent : PlacedManifest) (n : Node) : Prop :=
  ∃ content l scene, ((b.resolver parent n.requirement).run.run scene).1 = .ok content ∧
    content.license = some l.data ∧ n.license = some l

theorem Verdict.found_of_settle {v : ModuleVersion} {found : Except Failure Content}
    {content : Content} (h : Verdict.of false v found = .settle content) : found = .ok content := by
  match found with
  | .ok content =>
      cases h
      rfl
  | .error (.fault f) => cases h
  | .error (.problem p) =>
      simp only [Verdict.of, Bool.false_and, Bool.false_eq_true, if_false] at h
      cases h

namespace Build

variable {b : Builder σ} {parent : PlacedManifest} {r : Requirement} {path : List ModuleId}
  {s t u : BuildState σ} {n : Nat} {rs : List Requirement} {o : Except Failure (List Node)}
  (strict : b.lenient = false)
include strict

/-- A strict builder gives a module the text that was found, or fails. -/
theorem supplies_of_content {content : Content} {l : License} {scene : Scene σ}
    (settled : b.verdict parent r scene = .settle content)
    (run : (licenseFor b r content.license).run.run s = (.ok l, t)) (ns : List Node)
    (resolution : Resolution) :
    b.Supplies parent ⟨r.version, r.replacement, some l, ns, resolution⟩ := by
  rw [Builder.verdict, strict] at settled
  have found := Verdict.found_of_settle settled
  cases licenses_of_run run with
  | labelled given label => exact ⟨content, _, scene, found, given, rfl⟩
  | placeholder blank mode =>
      rw [strict] at mode
      cases mode

theorem Opens.supplies_of_done {node : Node} (opens : Opens b parent r path s n (.done (.ok node)) t)
    (miss : s.cache.find? r.id = none) (kept : t.cache.find? r.id ≠ none) :
    b.Supplies parent node := by
  cases opens with
  | bare => exact absurd miss kept
  | cycle _ mode => exact nomatch strict.symm.trans mode
  | shared new hit enough => exact nomatch miss.symm.trans hit
  | search new _ settled =>
      generalize made : b.verdict parent r (s.entered r).toScene = verdict at settled
      cases settled with
      | skipped => exact nomatch strict.symm.trans (Verdict.lenient_of_skip made)
      | leaf run alone => exact supplies_of_content strict made run [] _

theorem Opens.supplies_of_expand {d : Draft} (opens : Opens b parent r path s n (.expand d) t)
    (miss : s.cache.find? r.id = none) (ns : List Node) : b.Supplies parent (d.node r ns) := by
  cases opens with
  | deepen new hit known few => exact nomatch miss.symm.trans hit
  | search new _ settled =>
      generalize made : b.verdict parent r (s.entered r).toScene = verdict at settled
      cases settled with
      | found run known => exact supplies_of_content strict made run ns _

/-- Whatever a strict run keeps anew has a place among the nodes it hands back for which its text was
found. -/
theorem Expands.supplied (run : Expands b n path parent rs s o t) {ns : List Node} (ok : o = .ok ns)
    {id : ModuleId} (kept : t.cache.find? id ≠ none) (miss : s.cache.find? id = none) :
    ∃ p m, t.cache.Declares parent ns p m ∧ m.id = id ∧ b.Supplies p m := by
  induction run generalizing ns with
  | nil => exact absurd miss kept
  | halt | sink => cases ok
  | @pass n path parent r rest s t u node o opens after ih =>
      cases o with
      | error f => cases ok
      | ok ms =>
          cases ok
          by_cases before : t.cache.find? id = none
          · obtain ⟨p, m, place, same, supplies⟩ := ih rfl kept before
            exact ⟨p, m, place.widen fun _ => List.mem_cons_of_mem _, same, supplies⟩
          · -- The requirement at the head is the module itself: nothing else was kept meanwhile.
            obtain ⟨e, he⟩ := Option.ne_none_iff_exists'.mp before
            obtain old | ⟨rfl, -⟩ := opens.find?_done he
            · exact nomatch miss.symm.trans old
            · refine ⟨parent, node, .first List.mem_cons_self, ?_, ?_⟩
              · rw [Node.id, opens.requirement_eq]
              · exact opens.supplies_of_done strict miss before
  | @rise n path parent r rest s t u v d ms o opens below after ihBelow ihAfter =>
      cases o with
      | error f => cases ok
      | ok others =>
          cases ok
          by_cases before : (d.finish (n + 1) r ms u).cache.find? id = none
          · obtain ⟨p, m, place, same, supplies⟩ := ihAfter rfl kept before
            exact ⟨p, m, place.widen fun _ => List.mem_cons_of_mem _, same, supplies⟩
          · -- It is kept when the run leaves the head: it is the module there, or one below.
            by_cases here : id = r.id
            · subst here
              exact ⟨parent, d.node r ms, .first List.mem_cons_self, rfl,
                opens.supplies_of_expand strict miss ms⟩
            · rw [find?_finish_of_ne here] at before
              rw [← opens.of_expand.1] at miss
              obtain ⟨p, m, place, same, supplies⟩ := ihBelow rfl before miss
              have unchanged := opens.find?_below below
              obtain ⟨e, finished, known⟩ := opens.find?_finish unchanged ms
              obtain ⟨e', finished', grown⟩ := after.cache_le r.id e finished
              have le := (opens.finish_le unchanged ms).trans after.cache_le
              exact ⟨p, m, (place.grow le).under List.mem_cons_self finished'
                (grown.manifest.trans known), same, supplies⟩

end Build

namespace Builder

/-- The places in a tree that was built from nothing. -/
def Places (b : Builder σ) (root : PlacedManifest) (depth : Nat) (world : σ) (t : Tree) :
    PlacedManifest → Node → Prop :=
  (b.build root depth (.fresh world)).2.cache.Declares root t.root.dependencies

section
variable {b : Builder σ} {root p : PlacedManifest} {depth : Nat} {world : σ} {t : Tree} {n : Node}
  {l : License}

theorem shows_of_build (built : (b.build root depth (.fresh world)).1 = .ok t) :
    (∀ n ∈ Node.nodes t.root.dependencies, n.Formed b.lenient) ∧
      ∀ n ∈ Node.nodes t.root.dependencies, n.license.isSome →
        (b.build root depth (.fresh world)).2.cache.Shows n :=
  shows_of_kept (s := .fresh world) (Build.consistent b).empty built

theorem exists_places (built : (b.build root depth (.fresh world)).1 = .ok t)
    (h : n ∈ Node.nodes t.root.dependencies) : ∃ p, b.Places root depth world t p n := by
  obtain ⟨formed, shows⟩ := shows_of_build built
  exact Cache.declares_of_mem_nodes (fun m hm => (formed m hm).1.alone) shows h

/-- A licensed node carries the text that was found for some place of its module. -/
theorem supplied_of_build (strict : b.lenient = false)
    (built : (b.build root depth (.fresh world)).1 = .ok t) (place : b.Places root depth world t p n)
    (licensed : n.license = some l) :
    ∃ q m, b.Places root depth world t q m ∧ m.id = n.id ∧ m.license = some l ∧
      b.Supplies q m := by
  obtain ⟨-, shows⟩ := shows_of_build built
  obtain ⟨e, kept, license, -⟩ := shows n place.mem_nodes (by rw [licensed]; rfl)
  obtain ⟨o, u, run, result⟩ := b.expands_build root depth (.fresh world)
  rw [Places, result] at place
  rw [result] at built shows kept
  cases o with
  | error f => cases built
  | ok ns =>
      cases built
      rw [closed_cache] at kept
      have found : u.cache.find? n.id ≠ none := by
        rw [kept]
        exact Option.some_ne_none e
      obtain ⟨q, m, there, same, supplies⟩ := run.supplied strict rfl found rfl
      have within : b.Places root depth world (.over root ns) q m := by
        rw [Places, result, closed_cache]
        exact there
      obtain ⟨content, l', scene, searched, given, licensed'⟩ := supplies
      obtain ⟨e', kept', license', -⟩ := shows m there.mem_nodes (by rw [licensed']; rfl)
      rw [closed_cache, same, kept] at kept'
      cases kept'
      have license : m.license = some l := license'.symm.trans (license.trans licensed)
      exact ⟨q, m, within, same, license, content, l', scene, searched, given, licensed'⟩

end

/-- Every licensed place has the text that is found for it. -/
def Faithful (disk : Disk) (payload : ModuleVersion → Except Failure Payload)
    (places : PlacedManifest → Node → Prop) : Prop :=
  ∀ p n l, places p n → n.license = some l →
    Content.text disk payload p n.requirement = some l.data

/-- For all licensed places of a module the same text is found. -/
def Unambiguous (disk : Disk) (payload : ModuleVersion → Except Failure Payload)
    (places : PlacedManifest → Node → Prop) : Prop :=
  ∀ p n q m, places p n → places q m → n.license.isSome → m.license.isSome → n.id = m.id →
    Content.text disk payload p n.requirement = Content.text disk payload q m.requirement

/-- Licensed places of a module are of one requirement, and the directory that replaces it, if one
does, lies at one path for all of them. -/
def Anchored (disk : Disk) (places : PlacedManifest → Node → Prop) : Prop :=
  ∀ p n q m, places p n → places q m → n.license.isSome → m.license.isSome → n.id = m.id →
    n.requirement = m.requirement ∧ ∀ path, n.replacement = some (.directory path) →
      Content.located disk p path = Content.located disk q path

theorem Anchored.unambiguous {disk : Disk} {payload : ModuleVersion → Except Failure Payload}
    {places : PlacedManifest → Node → Prop} (anchored : Anchored disk places) :
    Unambiguous disk payload places := by
  intro p n q m here there licensed licensed' same
  obtain ⟨requirement, located⟩ := anchored p n q m here there licensed licensed' same
  rw [Content.text, Content.text, ← requirement, Content.found_congr located]

/-- In the tree of a strict build from nothing every node has a place, and every licensed node the text
that is found for some place of its module. The text is that of its own place throughout just when
only one is found for each module. So it is when no directory replacement is met at two paths. -/
theorem texts_of_build {b : Builder σ} {disk : Disk} {fetch : ModuleVersion → Run σ Payload}
    {payload : ModuleVersion → Except Failure Payload}
    (resolves : b.resolver = Content.resolve disk fetch) (strict : b.lenient = false)
    (fixed : ∀ v scene, ((fetch v).run.run scene).1 = payload v) {root : PlacedManifest}
    {depth : Nat} {world : σ} {t : Tree} (built : (b.build root depth (.fresh world)).1 = .ok t) :
    (∀ entry ∈ t.walk, ∃ p, b.Places root depth world t p entry.2) ∧
    (∀ p n l, b.Places root depth world t p n → n.license = some l →
      ∃ q m, b.Places root depth world t q m ∧ m.id = n.id ∧ m.license = some l ∧
        Content.text disk payload q m.requirement = some l.data) ∧
    (Faithful disk payload (b.Places root depth world t) ↔
      Unambiguous disk payload (b.Places root depth world t)) ∧
    (Anchored disk (b.Places root depth world t) →
      Faithful disk payload (b.Places root depth world t)) := by
  have supplied : ∀ p n l, b.Places root depth world t p n → n.license = some l →
      ∃ q m, b.Places root depth world t q m ∧ m.id = n.id ∧ m.license = some l ∧
        Content.text disk payload q m.requirement = some l.data := by
    intro p n l place licensed
    obtain ⟨q, m, there, same, license, content, l', scene, searched, given, licensed'⟩ :=
      supplied_of_build strict built place licensed
    rw [resolves, Content.run_resolve fixed] at searched
    obtain rfl : l = l' := Option.some.inj (license.symm.trans licensed')
    refine ⟨q, m, there, same, license, ?_⟩
    rw [Content.text, searched]
    exact given
  have faithful_iff : Faithful disk payload (b.Places root depth world t) ↔
      Unambiguous disk payload (b.Places root depth world t) := by
    obtain ⟨-, shows⟩ := shows_of_build built
    constructor
    · intro faithful p n q m here there licensed licensed' same
      obtain ⟨l, license⟩ := Option.isSome_iff_exists.mp licensed
      obtain ⟨l', license'⟩ := Option.isSome_iff_exists.mp licensed'
      obtain ⟨e, kept, shown, -⟩ := shows n here.mem_nodes licensed
      obtain ⟨e', kept', shown', -⟩ := shows m there.mem_nodes licensed'
      -- Both show what is kept, so both texts that are found are the one that is kept.
      rw [← same, kept] at kept'
      cases kept'
      rw [shown, license] at shown'
      obtain rfl : l = l' := Option.some.inj (shown'.trans license')
      rw [faithful p n l here license, faithful q m l there license']
    · intro unambiguous p n l here license
      obtain ⟨q, m, there, same, license', text⟩ := supplied p n l here license
      have licensed : n.license.isSome := by rw [license]; rfl
      have licensed' : m.license.isSome := by rw [license']; rfl
      rw [unambiguous p n q m here there licensed licensed' same.symm, text]
  refine ⟨?_, supplied, faithful_iff, fun anchored => faithful_iff.mpr anchored.unambiguous⟩
  intro entry met
  have inside : entry.2 ∈ Node.nodes t.root.dependencies := by
    rw [← t.walk_nodes]
    exact List.mem_map_of_mem met
  exact exists_places built inside

end Builder

namespace Nested

/-- A root that replaces two modules by directories beside it. -/
def outer : PlacedManifest :=
  ⟨⟨⟨"m", ""⟩, [⟨"x", "v1"⟩, ⟨"a", "v1"⟩],
    [(⟨"x", ""⟩, .directory "./x"), (⟨"a", ""⟩, .directory "./a")]⟩, some ⟨"/", []⟩⟩

/-- The second of them, which replaces the first one by a directory beside itself. -/
def inner : PlacedManifest :=
  ⟨⟨⟨"a", ""⟩, [⟨"x", "v1"⟩], [(⟨"x", ""⟩, .directory "./x")]⟩, some ⟨"/", ["a"]⟩⟩

def innerFile : Bytes := "module a\nrequire x v1\nreplace x => ./x\n".toUTF8.toList

/-- The two directories of the root, and the one below the second of them. -/
def disk : Disk :=
  ⟨[], [(["x", "LICENSE"], .file [65]), (["a", "LICENSE"], .file [77]),
    (["a", "go.mod"], .file innerFile), (["a", "x", "LICENSE"], .file [66])]⟩

/-- The module that both manifests require, and both replace by one text. -/
def shared : Requirement := ⟨⟨"x", "v1"⟩, some (.directory "./x")⟩

def offline (v : ModuleVersion) : Run Unit Payload := Run.fail .download none (some v)

def payload (v : ModuleVersion) : Except Failure Payload :=
  .error (.problem (.new .download none (some v)))

def builder : Builder Unit := ⟨Content.resolve disk offline, fun _ => pure "MIT", false⟩

theorem outer_shared : (Content.inDirectory disk outer "./x" : Run σ Content) =
    Content.ofFiles (Path.absolute ["x"]) [("LICENSE", [65])] := by
  have names : disk.namesBelow ["x"] = ["LICENSE"] := by decide +kernel
  refine Content.inDirectory_of_plain rfl (by decide +kernel) (by decide +kernel) rfl
    (by decide +kernel) ?_
  rw [names]
  exact Content.filesIn_file (by decide +kernel) rfl

theorem inner_shared : (Content.inDirectory disk inner "./x" : Run σ Content) =
    Content.ofFiles (Path.absolute ["a", "x"]) [("LICENSE", [66])] := by
  have names : disk.namesBelow ["a", "x"] = ["LICENSE"] := by decide +kernel
  refine Content.inDirectory_of_plain rfl (by decide +kernel) (by decide +kernel) rfl
    (by decide +kernel) ?_
  rw [names]
  exact Content.filesIn_file (by decide +kernel) rfl

theorem outer_inner : (Content.inDirectory disk outer "./a" : Run σ Content) =
    Content.ofFiles (Path.absolute ["a"]) [("LICENSE", [77]), ("go.mod", innerFile)] := by
  have names : disk.namesBelow ["a"] = ["LICENSE", "go.mod", "x"] := by decide +kernel
  refine Content.inDirectory_of_plain rfl (by decide +kernel) (by decide +kernel) rfl
    (by decide +kernel) ?_
  rw [names, Content.filesIn_file (by decide +kernel) rfl,
    Content.filesIn_file (by decide +kernel) rfl,
    Content.filesIn_directory (by decide +kernel) rfl]
  rfl

/-- The resolver, with what it reads for the requirements of the root read already. -/
def reader : Resolver Unit := fun p r =>
  if p = outer ∧ r.replacement = some (.directory "./x") then
    Content.ofFiles (Path.absolute ["x"]) [("LICENSE", [65])]
  else if p = outer ∧ r.replacement = some (.directory "./a") then
    Content.ofFiles (Path.absolute ["a"]) [("LICENSE", [77]), ("go.mod", innerFile)]
  else Content.resolve disk offline p r

theorem resolve_eq : Content.resolve disk offline = reader := by
  funext p r
  unfold reader
  split
  next first =>
    obtain ⟨rfl, replaced⟩ := first
    simp only [Content.resolve, replaced, outer_shared]
  next =>
    split
    next second =>
      obtain ⟨rfl, replaced⟩ := second
      simp only [Content.resolve, replaced, outer_inner]
    next => rfl

theorem builder_eq : builder = ⟨reader, fun _ => pure "MIT", false⟩ := by rw [builder, resolve_eq]

/-- The module is met below the second one with the text that was read for the root, though another
one is found for its place there. -/
theorem exists_place : ∃ t p n l, (builder.build outer 2 (.fresh ())).1 = .ok t ∧
    builder.Places outer 2 () t p n ∧ n.license = some l ∧ l.data = [65] ∧
      Content.text disk payload p n.requirement = some [66] := by
  have outline : (builder.build outer 2 (.fresh ())).1.toOption.map (fun t =>
      t.root.dependencies.flatMap fun n => n.dependencies.map fun m =>
        (n.id, m.requirement, m.license)) =
          some [("a@v1=>./a", shared, some ⟨[65], "MIT"⟩)] := by
    rw [builder_eq]
    decide +kernel
  have read : ((builder.build outer 2 (.fresh ())).2.cache.find? "a@v1=>./a").bind (·.manifest) =
      some inner := by
    rw [builder_eq]
    decide +kernel
  have text : Content.text disk payload inner shared = some [66] := by
    simp only [Content.text, Content.found, Content.resolve, shared, inner_shared]
    rfl
  cases built : (builder.build outer 2 (.fresh ())).1 with
  | error f =>
      rw [built] at outline
      cases outline
  | ok t =>
      rw [built] at outline
      have only : (t.root.dependencies.flatMap fun n => n.dependencies.map fun m =>
          (n.id, m.requirement, m.license)) = [("a@v1=>./a", shared, some ⟨[65], "MIT"⟩)] :=
        Option.some.inj outline
      obtain ⟨n, hn, below⟩ := List.mem_flatMap.mp (only ▸ List.mem_cons_self)
      obtain ⟨m, hm, same⟩ := List.mem_map.mp below
      simp only [Prod.mk.injEq] at same
      obtain ⟨id, requirement, license⟩ := same
      obtain ⟨e, kept, known⟩ := Option.bind_eq_some_iff.mp read
      have place : builder.Places outer 2 () t inner m := .next (.first hn) (id ▸ kept) known hm
      exact ⟨t, inner, m, _, rfl, place, license, rfl, requirement ▸ text⟩

end Nested

namespace Builder

/-- Two texts are found for the module that two manifests replace by directories of one name. -/
theorem texts_of_build_nested : ∃ t, (Nested.builder.build Nested.outer 2 (.fresh ())).1 = .ok t ∧
    ¬ Unambiguous Nested.disk Nested.payload
      (Nested.builder.Places Nested.outer 2 () t) := by
  obtain ⟨t, p, n, l, built, place, license, kept, found⟩ := Nested.exists_place
  have fixed : ∀ v scene, ((Nested.offline v).run.run scene).1 = Nested.payload v := fun _ _ => rfl
  obtain ⟨-, -, faithful_iff, -⟩ := texts_of_build rfl rfl fixed built
  refine ⟨t, built, fun unambiguous => ?_⟩
  have faithful := faithful_iff.mpr unambiguous p n l place license
  rw [found, kept] at faithful
  cases faithful

/-- The tree shows the one of them where the other is found. -/
theorem nested_unfaithful : ∃ t, (Nested.builder.build Nested.outer 2 (.fresh ())).1 = .ok t ∧
    ¬ Faithful Nested.disk Nested.payload
      (Nested.builder.Places Nested.outer 2 () t) := by
  obtain ⟨t, p, n, l, built, place, license, kept, found⟩ := Nested.exists_place
  refine ⟨t, built, fun faithful => ?_⟩
  have own := faithful p n l place license
  rw [found, kept] at own
  cases own

end Builder

end Attribution

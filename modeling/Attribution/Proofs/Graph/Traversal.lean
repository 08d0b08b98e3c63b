import Attribution.Graph.Builder

/-!
What a build does, step by step. A requirement is opened: either it is done with at once, or its
dependencies are looked into with a draft of its node at hand. `Expands` puts the openings of a list
of requirements together into a run. The main statements say that every traversal is such a run, so
that facts about builds go by induction on runs and none of them unfolds the traversal again.
-/

namespace Attribution

variable {σ : Type}

namespace BuildState

def told (s : BuildState σ) (level : LogLevel) (text : String) : BuildState σ :=
  { s with log := s.log ++ [⟨level, text⟩] }

def counted (s : BuildState σ) (f : Stats → Stats) : BuildState σ := { s with stats := f s.stats }

def kept (s : BuildState σ) (node : Node) (levels : Nat) (manifest : Option PlacedManifest) :
    BuildState σ :=
  { s with cache := s.cache.store ⟨node, levels, manifest⟩ }.told .debug
    ("Cached " ++ node.text ++ " module (" ++ toString levels ++ " levels)")

/-- The state in which a requirement is looked at. -/
def entered (s : BuildState σ) (r : Requirement) : BuildState σ :=
  s.told .debug ("Exploring module " ++ r.id)

/-- The state after the content of a requirement was asked for. -/
def inquired (s : BuildState σ) (b : Builder σ) (parent : PlacedManifest) (r : Requirement) :
    BuildState σ :=
  { s with
    toScene := ((b.resolver parent r).run.run s.toScene).2
    asked := s.asked ++ [r] }

def judged (s : BuildState σ) (b : Builder σ) (data : Bytes) : BuildState σ :=
  { s with
    toScene := ((b.classifier data).run.run s.toScene).2
    labelled := s.labelled ++ [data] }

section
variable (s : BuildState σ) (level : LogLevel) (text : String) (f : Stats → Stats) (node : Node)
  (levels : Nat) (manifest : Option PlacedManifest) (b : Builder σ) (parent : PlacedManifest)
  (r : Requirement) (data : Bytes)

@[simp] theorem told_cache : (s.told level text).cache = s.cache := rfl
@[simp] theorem told_asked : (s.told level text).asked = s.asked := rfl
@[simp] theorem told_stats : (s.told level text).stats = s.stats := rfl
@[simp] theorem told_labelled : (s.told level text).labelled = s.labelled := rfl
@[simp] theorem counted_cache : (s.counted f).cache = s.cache := rfl
@[simp] theorem counted_asked : (s.counted f).asked = s.asked := rfl
@[simp] theorem counted_stats : (s.counted f).stats = f s.stats := rfl
@[simp] theorem counted_labelled : (s.counted f).labelled = s.labelled := rfl
@[simp] theorem kept_cache :
    (s.kept node levels manifest).cache = s.cache.store ⟨node, levels, manifest⟩ := rfl
@[simp] theorem kept_asked : (s.kept node levels manifest).asked = s.asked := rfl
@[simp] theorem kept_stats : (s.kept node levels manifest).stats = s.stats := rfl
@[simp] theorem kept_labelled : (s.kept node levels manifest).labelled = s.labelled := rfl
@[simp] theorem entered_cache : (s.entered r).cache = s.cache := rfl
@[simp] theorem entered_asked : (s.entered r).asked = s.asked := rfl
@[simp] theorem entered_stats : (s.entered r).stats = s.stats := rfl
@[simp] theorem entered_labelled : (s.entered r).labelled = s.labelled := rfl
@[simp] theorem inquired_cache : (s.inquired b parent r).cache = s.cache := rfl
@[simp] theorem inquired_asked : (s.inquired b parent r).asked = s.asked ++ [r] := rfl
@[simp] theorem inquired_stats : (s.inquired b parent r).stats = s.stats := rfl
@[simp] theorem inquired_labelled : (s.inquired b parent r).labelled = s.labelled := rfl
@[simp] theorem judged_cache : (s.judged b data).cache = s.cache := rfl
@[simp] theorem judged_asked : (s.judged b data).asked = s.asked := rfl
@[simp] theorem judged_stats : (s.judged b data).stats = s.stats := rfl
@[simp] theorem judged_labelled : (s.judged b data).labelled = s.labelled ++ [data] := rfl

end

end BuildState

def Failure.forModule (v : ModuleVersion) : Failure → Failure
  | .problem p => .problem (p.withModule v)
  | .fault f => .fault f

/-- What a builder makes of the outcome of a search for content. -/
inductive Verdict where
  | settle (content : Content)
  | skip (p : Problem)
  | fail (f : Failure)

/-- A lenient builder skips what could not be fetched, and settles a module without a license. -/
def Verdict.of (lenient : Bool) (v : ModuleVersion) : Except Failure Content → Verdict
  | .ok content => .settle content
  | .error (.fault f) => .fail (.fault f)
  | .error (.problem p) =>
    if lenient && p.kind.isFetch then .skip p
    else
      match lenient, p.kind with
      | true, .licenseNotFound manifest => .settle ⟨manifest, none⟩
      | _, _ => .fail (.problem (p.withModule v))

def Builder.verdict (b : Builder σ) (parent : PlacedManifest) (r : Requirement)
    (scene : Scene σ) : Verdict :=
  .of b.lenient r.version ((b.resolver parent r).run.run scene).1

/-- The manifest a builder reads the requirements of a module from. -/
def Verdict.manifest? : Verdict → Option PlacedManifest
  | settle content => content.manifest
  | skip _ | fail _ => none

/-- What a node will hold once its dependencies are known. `former` are the dependencies it was kept
with before, none when the module is new. -/
structure Draft where
  license : Option License
  resolution : Resolution
  manifest : PlacedManifest
  former : Option (List Node)

namespace Draft

def node (d : Draft) (r : Requirement) (dependencies : List Node) : Node :=
  ⟨r.version, r.replacement, d.license, dependencies, d.resolution⟩

def finish (d : Draft) (levels : Nat) (r : Requirement) (dependencies : List Node)
    (s : BuildState σ) : BuildState σ :=
  match d.former with
  | none =>
    (s.counted fun c => { c with resolved := c.resolved + 1 }).kept (d.node r dependencies) levels
      (some d.manifest)
  | some old =>
    if dependencies.isEmpty && old.isEmpty then s
    else s.kept (d.node r dependencies) levels (some d.manifest)

@[simp] theorem node_id (d : Draft) (r : Requirement) (ns : List Node) :
    (d.node r ns).id = r.id := rfl

/-- A draft is kept when it is finished, unless neither was nor became anything a dependency. -/
theorem finish_cache (d : Draft) (levels : Nat) (r : Requirement) (ns : List Node)
    (s : BuildState σ) :
    (d.finish levels r ns s).cache = s.cache.store ⟨d.node r ns, levels, some d.manifest⟩ ∨
      (d.finish levels r ns s).cache = s.cache ∧ ns = [] ∧ d.former = some [] := by
  cases h : d.former with
  | none => exact .inl (by simp [finish, h])
  | some old =>
      by_cases nothing : ns.isEmpty && old.isEmpty
      · exact .inr ⟨by simp [finish, h, nothing], by simp_all⟩
      · exact .inl (by simp [finish, h, nothing])

/-- What holds whether or not a draft is kept when it is finished. -/
theorem finish_induction {P : Cache → Prop} {d : Draft} {levels : Nat} {r : Requirement}
    {ns : List Node} {s : BuildState σ}
    (kept : P (s.cache.store ⟨d.node r ns, levels, some d.manifest⟩)) (same : P s.cache) :
    P (d.finish levels r ns s).cache := by
  cases d.finish_cache levels r ns s with
  | inl cache => rw [cache]; exact kept
  | inr unchanged => rw [unchanged.1]; exact same

@[simp] theorem finish_asked (d : Draft) (levels : Nat) (r : Requirement) (ns : List Node)
    (s : BuildState σ) : (d.finish levels r ns s).asked = s.asked := by
  unfold finish
  split
  · rfl
  · split <;> rfl

end Draft

/-- What is settled about a requirement before anything below it is looked into. -/
inductive Opening where
  | done (outcome : Except Failure Node)
  | expand (draft : Draft)

namespace Build

/-- How a requirement that was not resolved before is opened, by what was made of its content. -/
inductive Settles (b : Builder σ) (r : Requirement) (levels : Nat) (s : BuildState σ) :
    Verdict → Opening → BuildState σ → Prop
  | failed {f : Failure} : Settles b r levels s (.fail f) (.done (.error f)) s
  | skipped {p : Problem} :
      Settles b r levels s (.skip p)
        (.done (.ok ⟨r.version, r.replacement, some (License.unknown r.version), [], .skipped⟩))
        (((s.told .warning ("Got download error: " ++ p.text)).counted
          fun c => { c with degraded := c.degraded + 1 }).kept
          ⟨r.version, r.replacement, some (License.unknown r.version), [], .skipped⟩ levels none)
  | unlicensed {content : Content} {f : Failure} {t : BuildState σ}
      (license : (licenseFor b r content.license).run.run s = (.error f, t)) :
      Settles b r levels s (.settle content) (.done (.error f)) t
  | leaf {content : Content} {l : License} {t : BuildState σ}
      (license : (licenseFor b r content.license).run.run s = (.ok l, t))
      (alone : content.manifest = none) :
      Settles b r levels s (.settle content)
        (.done (.ok ⟨r.version, r.replacement, some l, [], resolutionOf content⟩))
        (((t.told .debug ("Found " ++ l.name ++ " license and " ++ toString 0 ++
          " required modules")).counted fun c => { c with resolved := c.resolved + 1 }).kept
          ⟨r.version, r.replacement, some l, [], resolutionOf content⟩ levels none)
  | found {content : Content} {l : License} {m : PlacedManifest} {t : BuildState σ}
      (license : (licenseFor b r content.license).run.run s = (.ok l, t))
      (known : content.manifest = some m) :
      Settles b r levels s (.settle content) (.expand ⟨some l, resolutionOf content, m, none⟩)
        (t.told .debug ("Found " ++ l.name ++ " license and " ++
          toString m.manifest.requires.length ++ " required modules"))

/-- How a requirement is opened with so many levels left. -/
inductive Opens (b : Builder σ) (parent : PlacedManifest) (r : Requirement) (path : List ModuleId)
    (s : BuildState σ) : Nat → Opening → BuildState σ → Prop
  | bare :
      Opens b parent r path s 0 (.done (.ok (.bare r .unexpanded)))
        (s.counted fun c => { c with unexpanded := c.unexpanded + 1 })
  | cycle {n : Nat} (again : r.id ∈ path) (mode : b.lenient = true) :
      Opens b parent r path s (n + 1) (.done (.ok (.bare r .cycle)))
        (((s.entered r).told .warning ("Cyclic dependency: " ++
          " -> ".intercalate (path.dropWhile (· != r.id) ++ [r.id]))).counted
          fun c => { c with degraded := c.degraded + 1 })
  | cycleError {n : Nat} (again : r.id ∈ path) (mode : b.lenient = false) :
      Opens b parent r path s (n + 1)
        (.done (.error (.problem (.new (.cycle (path.dropWhile (· != r.id) ++ [r.id])) none
          (some r.version)))))
        (s.entered r)
  | shared {n : Nat} {e : Cache.Entry} (new : r.id ∉ path) (hit : s.cache.find? r.id = some e)
      (enough : e.manifest = none ∨ (n + 1 : Nat) ≤ e.levels) :
      Opens b parent r path s (n + 1)
        (.done (.ok ⟨r.version, r.replacement, e.node.license, e.node.dependencies,
          e.node.resolution⟩))
        ((s.entered r).counted fun c => { c with cacheHits := c.cacheHits + 1 })
  | deepen {n : Nat} {e : Cache.Entry} {m : PlacedManifest} (new : r.id ∉ path)
      (hit : s.cache.find? r.id = some e) (known : e.manifest = some m)
      (few : e.levels < (n + 1 : Nat)) :
      Opens b parent r path s (n + 1)
        (.expand ⟨e.node.license, e.node.resolution, m, some e.node.dependencies⟩)
        (((s.entered r).counted fun c => { c with cacheHits := c.cacheHits + 1 }).told .debug
          ("Expanding cached module " ++ r.id ++ " further"))
  | search {n : Nat} {o : Opening} {t : BuildState σ} (new : r.id ∉ path)
      (miss : s.cache.find? r.id = none)
      (settled : Settles b r (n + 1) ((s.entered r).inquired b parent r)
        (b.verdict parent r (s.entered r).toScene) o t) :
      Opens b parent r path s (n + 1) o t

/-- How a list of requirements is looked into with so many levels left: one after the other, up to
the first failure, and what lies below a module before what comes after it. -/
inductive Expands (b : Builder σ) : Nat → List ModuleId → PlacedManifest → List Requirement →
    BuildState σ → Except Failure (List Node) → BuildState σ → Prop
  | nil {n : Nat} {path : List ModuleId} {parent : PlacedManifest} {s : BuildState σ} :
      Expands b n path parent [] s (.ok []) s
  | halt {n : Nat} {path : List ModuleId} {parent : PlacedManifest} {r : Requirement}
      {rest : List Requirement} {s t : BuildState σ} {f : Failure}
      (opens : Opens b parent r path s n (.done (.error f)) t) :
      Expands b n path parent (r :: rest) s (.error f) t
  | pass {n : Nat} {path : List ModuleId} {parent : PlacedManifest} {r : Requirement}
      {rest : List Requirement} {s t u : BuildState σ} {node : Node}
      {o : Except Failure (List Node)} (opens : Opens b parent r path s n (.done (.ok node)) t)
      (after : Expands b n path parent rest t o u) :
      Expands b n path parent (r :: rest) s (o.map (node :: ·)) u
  | sink {n : Nat} {path : List ModuleId} {parent : PlacedManifest} {r : Requirement}
      {rest : List Requirement} {s t u : BuildState σ} {d : Draft} {f : Failure}
      (opens : Opens b parent r path s (n + 1) (.expand d) t)
      (below : Expands b n (path ++ [r.id]) d.manifest d.manifest.requirements t (.error f) u) :
      Expands b (n + 1) path parent (r :: rest) s (.error f) u
  | rise {n : Nat} {path : List ModuleId} {parent : PlacedManifest} {r : Requirement}
      {rest : List Requirement} {s t u v : BuildState σ} {d : Draft} {ns : List Node}
      {o : Except Failure (List Node)} (opens : Opens b parent r path s (n + 1) (.expand d) t)
      (below : Expands b n (path ++ [r.id]) d.manifest d.manifest.requirements t (.ok ns) u)
      (after : Expands b (n + 1) path parent rest (d.finish (n + 1) r ns u) o v) :
      Expands b (n + 1) path parent (r :: rest) s (o.map (d.node r ns :: ·)) v

private theorem run_bind {α β : Type} (x : Build σ α) (f : α → Build σ β) (s : BuildState σ) :
    (x >>= f).run.run s =
      match x.run.run s with
      | (.ok a, t) => (f a).run.run t
      | (.error e, t) => (.error e, t) := by
  simp only [ExceptT.run_bind, StateT.run_bind]
  rcases x.run.run s with ⟨_ | a, t⟩ <;> rfl

private theorem run_write (level : LogLevel) (text : String) (s : BuildState σ) :
    (write level text).run.run s = (.ok (), s.told level text) := rfl

private theorem run_count (f : Stats → Stats) (s : BuildState σ) :
    (count f).run.run s = (.ok (), s.counted f) := rfl

private theorem run_ask (b : Builder σ) (parent : PlacedManifest) (r : Requirement)
    (s : BuildState σ) :
    (ask b parent r).run.run s =
      (.ok ((b.resolver parent r).run.run s.toScene).1, s.inquired b parent r) := rfl

private theorem run_licenseFor_text (b : Builder σ) (r : Requirement) (byte : UInt8)
    (bytes : Bytes) (s : BuildState σ) :
    (licenseFor b r (some (byte :: bytes))).run.run s =
      (match ((b.classifier (byte :: bytes)).run.run s.toScene).1 with
        | .ok name => .ok ⟨byte :: bytes, name⟩
        | .error f => .error (f.forModule r.version), s.judged b (byte :: bytes)) := by
  change (match ((b.classifier (byte :: bytes)).run.run s.toScene).1 with
    | .ok name => pure ⟨byte :: bytes, name⟩
    | .error failure => throwFor r.version failure :
      Build σ License).run.run (s.judged b (byte :: bytes)) = _
  rcases ((b.classifier (byte :: bytes)).run.run s.toScene).1 with (p | f) | name <;> rfl

private theorem run_licenseFor_blank (b : Builder σ) (r : Requirement) (data : Option Bytes)
    (s : BuildState σ) (blank : ∀ byte bytes, data ≠ some (byte :: bytes)) :
    (licenseFor b r data).run.run s =
      if b.lenient then
        (.ok (License.unknown r.version),
          (s.told .warning ("No license found for " ++ r.version.text)).counted
            fun c => { c with degraded := c.degraded + 1 })
      else (.error (.problem (.new (.licenseNotFound none) none (some r.version))), s) := by
  match data with
  | some (byte :: bytes) => exact absurd rfl (blank byte bytes)
  | some [] | none => cases mode : b.lenient <;> simp [licenseFor, mode] <;> rfl

/-- How the license of a requirement with the given license text comes about. A text that is not
empty is labelled; without one a lenient build goes on with a placeholder. -/
inductive Licenses (b : Builder σ) (r : Requirement) (data : Option Bytes) (s : BuildState σ) :
    Except Failure License → BuildState σ → Prop
  | labelled {byte : UInt8} {bytes : Bytes} {name : String} (given : data = some (byte :: bytes))
      (label : ((b.classifier (byte :: bytes)).run.run s.toScene).1 = .ok name) :
      Licenses b r data s (.ok ⟨byte :: bytes, name⟩) (s.judged b (byte :: bytes))
  | refused {byte : UInt8} {bytes : Bytes} {f : Failure} (given : data = some (byte :: bytes))
      (label : ((b.classifier (byte :: bytes)).run.run s.toScene).1 = .error f) :
      Licenses b r data s (.error (f.forModule r.version)) (s.judged b (byte :: bytes))
  | placeholder (blank : ∀ byte bytes, data ≠ some (byte :: bytes)) (mode : b.lenient = true) :
      Licenses b r data s (.ok (License.unknown r.version))
        ((s.told .warning ("No license found for " ++ r.version.text)).counted
          fun c => { c with degraded := c.degraded + 1 })
  | missing (blank : ∀ byte bytes, data ≠ some (byte :: bytes)) (mode : b.lenient = false) :
      Licenses b r data s (.error (.problem (.new (.licenseNotFound none) none (some r.version)))) s

theorem licenses_of_run {b : Builder σ} {r : Requirement} {data : Option Bytes}
    {s t : BuildState σ} {o : Except Failure License}
    (run : (licenseFor b r data).run.run s = (o, t)) : Licenses b r data s o t := by
  by_cases text : ∃ byte bytes, data = some (byte :: bytes)
  · obtain ⟨byte, bytes, rfl⟩ := text
    rw [run_licenseFor_text] at run
    cases label : ((b.classifier (byte :: bytes)).run.run s.toScene).1 <;> rw [label] at run <;>
      cases run
    · exact .refused rfl label
    · exact .labelled rfl label
  · have blank : ∀ byte bytes, data ≠ some (byte :: bytes) := fun byte bytes h =>
      text ⟨byte, bytes, h⟩
    rw [run_licenseFor_blank b r data s blank] at run
    cases mode : b.lenient <;> simp only [mode, if_true, Bool.false_eq_true, if_false] at run <;>
      cases run
    · exact .missing blank mode
    · exact .placeholder blank mode

theorem Licenses.run {b : Builder σ} {r : Requirement} {data : Option Bytes} {s t : BuildState σ}
    {o : Except Failure License} (licenses : Licenses b r data s o t) :
    (licenseFor b r data).run.run s = (o, t) := by
  cases licenses with
  | labelled given label | refused given label => rw [given, run_licenseFor_text, label]
  | placeholder blank mode => rw [run_licenseFor_blank b r data s blank, if_pos mode]
  | missing blank mode =>
      rw [run_licenseFor_blank b r data s blank, mode, if_neg Bool.false_ne_true]

/-- Labelling changes neither the kept modules nor what was asked for. -/
theorem licenseFor_frame {b : Builder σ} {r : Requirement} {data : Option Bytes}
    {s t : BuildState σ} {o : Except Failure License}
    (run : (licenseFor b r data).run.run s = (o, t)) :
    t.cache = s.cache ∧ t.asked = s.asked ∧ t.stats.resolved = s.stats.resolved := by
  cases licenses_of_run run with
  | labelled | refused | placeholder | missing => exact ⟨rfl, rfl, rfl⟩

section
variable {b : Builder σ} {parent : PlacedManifest} {r : Requirement} {path : List ModuleId}
  {s t : BuildState σ} {n : Nat}

/-- A new module that is done with at once is kept without dependencies, unless it failed. -/
theorem Settles.of_done {levels : Nat} {verdict : Verdict} {o : Except Failure Node}
    (settled : Settles b r levels s verdict (.done o) t) :
    t.asked = s.asked ∧
      ((∃ f, o = .error f ∧ t.cache = s.cache) ∨
        ∃ l resolution, o = .ok ⟨r.version, r.replacement, some l, [], resolution⟩ ∧
          t.cache = s.cache.store
            ⟨⟨r.version, r.replacement, some l, [], resolution⟩, levels, none⟩) := by
  cases settled with
  | failed => exact ⟨rfl, .inl ⟨_, rfl, rfl⟩⟩
  | skipped => exact ⟨rfl, .inr ⟨_, _, rfl, rfl⟩⟩
  | unlicensed run =>
      obtain ⟨cache, asked, -⟩ := licenseFor_frame run
      exact ⟨asked, .inl ⟨_, rfl, cache⟩⟩
  | leaf run alone =>
      obtain ⟨cache, asked, -⟩ := licenseFor_frame run
      exact ⟨asked, .inr ⟨_, _, rfl, by simp [cache]⟩⟩

theorem Settles.of_expand {levels : Nat} {verdict : Verdict} {d : Draft}
    (settled : Settles b r levels s verdict (.expand d) t) :
    t.asked = s.asked ∧ t.cache = s.cache ∧ d.former = none ∧ d.license.isSome := by
  cases settled with
  | found run known =>
      obtain ⟨cache, asked, -⟩ := licenseFor_frame run
      exact ⟨asked, cache, rfl, rfl⟩

/-- A requirement that is done with at once leaves alone what is kept and what was asked for, or it
is new: then it was asked for, and is kept without dependencies unless it failed. -/
theorem Opens.of_done {o : Except Failure Node} (opens : Opens b parent r path s n (.done o) t) :
    (t.cache = s.cache ∧ t.asked = s.asked) ∨
      (r.id ∉ path ∧ s.cache.find? r.id = none ∧ t.asked = s.asked ++ [r] ∧
        ((∃ f, o = .error f ∧ t.cache = s.cache) ∨
          ∃ l resolution, o = .ok ⟨r.version, r.replacement, some l, [], resolution⟩ ∧
            t.cache = s.cache.store
              ⟨⟨r.version, r.replacement, some l, [], resolution⟩, n, none⟩)) := by
  cases opens with
  | bare | cycle _ _ | cycleError _ _ | shared _ _ _ => exact .inl ⟨rfl, rfl⟩
  | search new miss settled =>
      obtain ⟨asked, outcome⟩ := settled.of_done
      exact .inr ⟨new, miss, asked, outcome⟩

/-- Before a requirement is expanded nothing is kept. Either it is new, and was asked for, or it was
kept with fewer levels. -/
theorem Opens.of_expand {d : Draft} (opens : Opens b parent r path s n (.expand d) t) :
    t.cache = s.cache ∧ r.id ∉ path ∧
      ((s.cache.find? r.id = none ∧ t.asked = s.asked ++ [r] ∧ d.former = none ∧
          d.license.isSome) ∨
        ∃ e, s.cache.find? r.id = some e ∧ t.asked = s.asked ∧ e.levels < n ∧
          e.manifest = some d.manifest ∧ e.node.license = d.license ∧
          e.node.resolution = d.resolution ∧ d.former = some e.node.dependencies) := by
  cases opens with
  | deepen new hit known few => exact ⟨rfl, new, .inr ⟨_, hit, rfl, few, known, rfl, rfl, rfl⟩⟩
  | search new miss settled =>
      obtain ⟨asked, cache, former, licensed⟩ := settled.of_expand
      exact ⟨cache, new, .inl ⟨miss, asked, former, licensed⟩⟩

end

private def close (expand : PlacedManifest → Build σ (List Node)) (levels : Nat)
    (r : Requirement) : Opening → BuildState σ → Except Failure Node × BuildState σ
  | .done outcome, t => (outcome, t)
  | .expand d, t =>
    match (expand d.manifest).run.run t with
    | (.ok ns, u) => (.ok (d.node r ns), d.finish levels r ns u)
    | (.error f, u) => (.error f, u)

private theorem run_settle (b : Builder σ) (expand : PlacedManifest → Build σ (List Node))
    (levels : Nat) (r : Requirement) (content : Content) (s : BuildState σ) :
    ∃ o t, Settles b r levels s (.settle content) o t ∧
      (settle b expand levels r content).run.run s = close expand levels r o t := by
  rcases hl : (licenseFor b r content.license).run.run s with ⟨f | l, t⟩
  · refine ⟨_, _, .unlicensed hl, ?_⟩
    rw [settle, run_bind, hl]
    rfl
  · cases hm : content.manifest with
    | none =>
        refine ⟨_, _, .leaf hl hm, ?_⟩
        rw [settle, run_bind, hl]
        simp only [hm]
        rfl
    | some m =>
        refine ⟨_, _, .found hl hm, ?_⟩
        rw [settle, run_bind, hl]
        simp only [hm, debug, run_bind, run_write]
        simp only [close]
        rcases (expand m).run.run _ with ⟨f | ns, u⟩ <;> rfl

private theorem run_reuse (expand : PlacedManifest → Build σ (List Node)) (levels : Nat)
    (r : Requirement) (e : Cache.Entry) (m : PlacedManifest) (known : e.manifest = some m)
    (few : e.levels < levels) (s : BuildState σ) :
    (reuse expand levels r e).run.run s =
      close expand levels r
        (.expand ⟨e.node.license, e.node.resolution, m, some e.node.dependencies⟩)
        ((s.counted fun c => { c with cacheHits := c.cacheHits + 1 }).told .debug
          ("Expanding cached module " ++ r.id ++ " further")) := by
  simp only [reuse, debug, run_bind, run_write, run_count, known, few, if_true, close]
  rcases (expand m).run.run _ with ⟨f | ns, u⟩
  · rfl
  · simp only [Draft.finish, Draft.node]
    split <;> rfl

private theorem run_obtain (b : Builder σ) (expand : PlacedManifest → Build σ (List Node))
    (levels : Nat) (parent : PlacedManifest) (r : Requirement) (s : BuildState σ) :
    ∃ o t, Settles b r levels (s.inquired b parent r) (b.verdict parent r s.toScene) o t ∧
      (obtain b expand levels parent r).run.run s = close expand levels r o t := by
  rw [obtain, run_bind, run_ask, Builder.verdict]
  rcases ((b.resolver parent r).run.run s.toScene).1 with (p | f) | content
  · rcases p with ⟨kind, message, module, recorded⟩
    cases b.lenient with
    | false => exact ⟨_, _, .failed, rfl⟩
    | true =>
        cases kind with
        | fetch | download | localReplacement => exact ⟨_, _, .skipped, rfl⟩
        | licenseNotFound manifest => exact run_settle b expand levels r _ _
        | general | manifestNotFound | manifestMalformed | classification | cycle =>
            exact ⟨_, _, .failed, rfl⟩
  · exact ⟨_, _, .failed, rfl⟩
  · exact run_settle b expand levels r content _

private theorem run_visit_new (b : Builder σ) (n : Nat) (path : List ModuleId)
    (parent : PlacedManifest) (r : Requirement) (s : BuildState σ) (new : r.id ∉ path) :
    (visit b (n + 1) path parent r).run.run s =
      (match s.cache.find? r.id with
        | some e => reuse (fun m => each (visit b n (path ++ [r.id]) m) m.requirements) (n + 1) r e
        | none => obtain b (fun m => each (visit b n (path ++ [r.id]) m) m.requirements) (n + 1)
            parent r).run.run (s.entered r) := by
  rw [visit, debug, run_bind, run_write]
  simp only [List.contains_eq_mem, new, decide_false, Bool.false_eq_true, if_false]
  rfl

private theorem run_visit (b : Builder σ) (n : Nat) (path : List ModuleId)
    (parent : PlacedManifest) (r : Requirement) (s : BuildState σ) :
    ∃ o t, Opens b parent r path s n o t ∧ (visit b n path parent r).run.run s =
      close (fun m => each (visit b (n - 1) (path ++ [r.id]) m) m.requirements) n r o t := by
  cases n with
  | zero => exact ⟨_, _, .bare, rfl⟩
  | succ n =>
      by_cases again : r.id ∈ path
      · cases mode : b.lenient with
        | true =>
            refine ⟨_, _, .cycle again mode, ?_⟩
            rw [visit, debug, run_bind, run_write]
            simp [closeCycle, again, mode, close]
            rfl
        | false =>
            refine ⟨_, _, .cycleError again mode, ?_⟩
            rw [visit, debug, run_bind, run_write]
            simp [closeCycle, again, mode, close]
            rfl
      · rw [run_visit_new b n path parent r s again]
        cases found : s.cache.find? r.id with
        | none =>
            obtain ⟨o, t, settled, run⟩ := run_obtain b
              (fun m => each (visit b n (path ++ [r.id]) m) m.requirements) (n + 1) parent r
              (s.entered r)
            exact ⟨o, t, .search again found settled, run⟩
        | some e =>
            cases known : e.manifest with
            | none =>
                refine ⟨_, _, .shared again found (.inl known), ?_⟩
                simp only [reuse, known]
                rfl
            | some m =>
                by_cases few : e.levels < (n + 1 : Nat)
                · exact ⟨_, _, .deepen again found known few, run_reuse _ _ r e m known few _⟩
                · refine ⟨_, _, .shared again found (.inr (by omega)), ?_⟩
                  simp only [reuse, known, few, if_false]
                  rfl

private theorem opens_expand_pos {b : Builder σ} {parent : PlacedManifest} {r : Requirement}
    {path : List ModuleId} {s t : BuildState σ} {n : Nat} {d : Draft}
    (opens : Opens b parent r path s n (.expand d) t) : ∃ m, n = m + 1 := by
  cases opens with
  | deepen _ _ _ _ | search _ _ _ => exact ⟨_, rfl⟩

private theorem expands_each_step (b : Builder σ) (n : Nat) (path : List ModuleId)
    (parent : PlacedManifest)
    (below : ∀ m, n = m + 1 → ∀ path parent rs s,
      Expands b m path parent rs s ((each (visit b m path parent) rs).run.run s).1
        ((each (visit b m path parent) rs).run.run s).2)
    (rs : List Requirement) (s : BuildState σ) :
    Expands b n path parent rs s ((each (visit b n path parent) rs).run.run s).1
      ((each (visit b n path parent) rs).run.run s).2 := by
  induction rs generalizing s with
  | nil => exact .nil
  | cons r rest ih =>
      obtain ⟨o, t, opens, run⟩ := run_visit b n path parent r s
      rw [each, run_bind, run]
      match o with
      | .done (.error f) => exact .halt opens
      | .done (.ok node) =>
          have after := ih t
          simp only [close, run_bind]
          rcases h : (each (visit b n path parent) rest).run.run t with ⟨f | ns, u⟩ <;>
            rw [h] at after <;> exact .pass opens after
      | .expand d =>
          obtain ⟨m, rfl⟩ := opens_expand_pos opens
          have down := below m rfl (path ++ [r.id]) d.manifest d.manifest.requirements t
          simp only [close, run_bind, Nat.add_sub_cancel]
          rcases hd : (each (visit b m (path ++ [r.id]) d.manifest) d.manifest.requirements).run.run
            t with ⟨f | ns, u⟩ <;> rw [hd] at down
          · exact .sink opens down
          · have after := ih (d.finish (m + 1) r ns u)
            rcases ha : (each (visit b (m + 1) path parent) rest).run.run
              (d.finish (m + 1) r ns u) with ⟨f | ms, v⟩ <;> rw [ha] at after <;> simp only [ha] <;>
              exact .rise opens down after

/-- Every traversal of a list of requirements is a run. -/
theorem expands_each (b : Builder σ) (n : Nat) (path : List ModuleId) (parent : PlacedManifest)
    (rs : List Requirement) (s : BuildState σ) :
    Expands b n path parent rs s ((each (visit b n path parent) rs).run.run s).1
      ((each (visit b n path parent) rs).run.run s).2 := by
  induction n generalizing path parent rs s with
  | zero => exact expands_each_step b 0 path parent (fun m h => nomatch h) rs s
  | succ n ih =>
      refine expands_each_step b (n + 1) path parent (fun m h => ?_) rs s
      cases h
      exact ih

/-- Resolving a single requirement is a run. -/
theorem expands_visit (b : Builder σ) (n : Nat) (path : List ModuleId) (parent : PlacedManifest)
    (r : Requirement) (s : BuildState σ) :
    Expands b n path parent [r] s (((visit b n path parent r).run.run s).1.map ([·]))
      ((visit b n path parent r).run.run s).2 := by
  have run := expands_each b n path parent [r] s
  rw [each, run_bind] at run
  rcases h : (visit b n path parent r).run.run s with ⟨f | node, t⟩ <;> rw [h] at run <;> exact run

section
variable {b : Builder σ} {parent : PlacedManifest} {r : Requirement} {path : List ModuleId}
  {s t : BuildState σ} {n : Nat} {rs : List Requirement} {o : Except Failure (List Node)}

/-- A requirement that is done with at once gets a node of its own. -/
theorem Opens.requirement_eq {node : Node}
    (opens : Opens b parent r path s n (.done (.ok node)) t) : node.requirement = r := by
  cases opens with
  | bare | cycle | shared => rfl
  | search new miss settled =>
      obtain ⟨-, ⟨f, outcome, -⟩ | ⟨l, resolution, outcome, -⟩⟩ := settled.of_done
      · cases outcome
      · cases outcome
        rfl

/-- A run hands back a node for each requirement, in order. -/
theorem Expands.requirements_eq (run : Expands b n path parent rs s o t) {ns : List Node}
    (ok : o = .ok ns) : ns.map Node.requirement = rs := by
  induction run generalizing ns with
  | nil =>
      cases ok
      rfl
  | halt | sink => cases ok
  | @pass n path parent r rest s t u node o opens after ih =>
      cases o with
      | error f => cases ok
      | ok ms =>
          cases ok
          rw [List.map_cons, opens.requirement_eq, ih rfl]
  | @rise n path parent r rest s t u v d ms o opens below after ihBelow ihAfter =>
      cases o with
      | error f => cases ok
      | ok others =>
          cases ok
          rw [List.map_cons, ihAfter rfl]
          rfl

end

end Build

def Tree.over (root : PlacedManifest) (nodes : List Node) : Tree :=
  ⟨⟨root.manifest.module, none, none, nodes, .root⟩⟩

namespace Builder

def summary (c : Stats) : String :=
  "Dependency graph built successfully: " ++ toString c.resolved ++ " resolved, " ++
    toString c.cacheHits ++ " cache hits, " ++ toString c.unexpanded ++ " unexpanded, " ++
    toString c.degraded ++ " degraded"

/-- The state in which a run ends, with what is said of a finished build. -/
def closed (o : Except Failure (List Node)) (t : BuildState σ) : BuildState σ :=
  match o with
  | .ok _ => t.told .debug (summary t.stats)
  | .error _ => t

section
variable (o : Except Failure (List Node)) (t : BuildState σ)

@[simp] theorem closed_cache : (closed o t).cache = t.cache := by cases o <;> rfl
@[simp] theorem closed_asked : (closed o t).asked = t.asked := by cases o <;> rfl
@[simp] theorem closed_stats : (closed o t).stats = t.stats := by cases o <;> rfl
@[simp] theorem closed_labelled : (closed o t).labelled = t.labelled := by cases o <;> rfl

end

/-- A build that is not refused is a run over the requirements of its root. -/
theorem expands_build (b : Builder σ) (root : PlacedManifest) (depth : Nat) (s : BuildState σ) :
    ∃ o t, Build.Expands b depth [] root root.requirements
        (s.told .debug "Started building the dependency graph") o t ∧
      b.build root depth s = (o.map (Tree.over root), closed o t) := by
  refine ⟨_, _, Build.expands_each b depth [] root root.requirements _, ?_⟩
  have nonneg : ¬ (depth : Int) < 0 := by omega
  simp only [build, nonneg, if_false, Build.tree, Build.debug, Build.run_bind, Build.run_write,
    Int.toNat_natCast]
  rcases (Build.each _ root.requirements).run.run _ with ⟨f | ns, t⟩ <;> rfl

/-- A build with a negative depth is refused before anything happens. -/
theorem build_of_neg (b : Builder σ) (root : PlacedManifest) (depth : Int) (s : BuildState σ)
    (neg : depth < 0) : b.build root depth s = (.error (.fault (.negativeDepth depth)), s) := by
  simp [build, neg]

/-- A build is refused for its depth, or it is a run over the requirements of its root. -/
theorem build_cases (b : Builder σ) (root : PlacedManifest) (depth : Int) (s : BuildState σ) :
    (depth < 0 ∧ b.build root depth s = (.error (.fault (.negativeDepth depth)), s)) ∨
      ∃ (n : Nat) (o : Except Failure (List Node)) (t : BuildState σ), depth = n ∧
        Build.Expands b n [] root root.requirements
          (s.told .debug "Started building the dependency graph") o t ∧
        b.build root depth s = (o.map (Tree.over root), closed o t) := by
  by_cases neg : depth < 0
  · exact .inl ⟨neg, b.build_of_neg root depth s neg⟩
  · obtain ⟨n, rfl⟩ := Int.eq_ofNat_of_zero_le (Int.not_lt.mp neg)
    obtain ⟨o, t, run, result⟩ := b.expands_build root n s
    exact .inr ⟨n, o, t, rfl, run, result⟩

/-- The states of a builder after builds of the given roots, to any depth and however they ended,
and after its cache was cleared between them. -/
inductive Reachable (b : Builder σ) (roots : PlacedManifest → Prop) : BuildState σ → Prop
  | fresh (world : σ) : Reachable b roots (.fresh world)
  | build {s : BuildState σ} {root : PlacedManifest} (depth : Int) (before : Reachable b roots s)
      (given : roots root) : Reachable b roots (b.build root depth s).2
  | forget {s : BuildState σ} (before : Reachable b roots s) : Reachable b roots s.forget

end Builder

end Attribution

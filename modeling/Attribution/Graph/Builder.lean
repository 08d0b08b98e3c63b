import Attribution.Cache
import Attribution.Content

/-!
Building dependency trees. Requirements are resolved depth first, in declared order, one at a time; a
finished module is kept, and a module that is met again nearer to the root is only expanded further.
What has happened so far survives a failure.
-/

namespace Attribution

/-- How a license text is labelled. -/
abbrev Classifier (σ : Type) := Bytes → Run σ String

/-- Counts of what the builds so far have done. -/
structure Stats where
  resolved : Nat
  cacheHits : Nat
  unexpanded : Nat
  degraded : Nat
  deriving DecidableEq, Repr

def Stats.zero : Stats := ⟨0, 0, 0, 0⟩

/-- What a builder has: the resolved modules, the counts, which requirements it had resolved and which
texts labelled, in order, and the scene of its collaborators. -/
structure BuildState (σ : Type) extends Scene σ where
  cache : Cache
  stats : Stats
  asked : List Requirement
  labelled : List Bytes

namespace BuildState

variable {σ : Type}

/-- A builder that has done nothing yet. -/
def fresh (world : σ) : BuildState σ := ⟨⟨world, []⟩, .empty, .zero, [], []⟩

/-- Forgets the resolved modules. -/
def forget (s : BuildState σ) : BuildState σ := { s with cache := .empty }

end BuildState

/-- A step of a build. -/
abbrev Build (σ : Type) := ExceptT Failure (StateM (BuildState σ))

/-- The collaborators of a builder, and whether it puts placeholders where content or a license is
missing. -/
structure Builder (σ : Type) where
  resolver : Resolver σ
  classifier : Classifier σ
  lenient : Bool

namespace Build

variable {σ : Type}

def write (level : LogLevel) (text : String) : Build σ Unit :=
  modify fun s => { s with log := s.log ++ [⟨level, text⟩] }

def debug (text : String) : Build σ Unit := write .debug text

def warn (text : String) : Build σ Unit := write .warning text

def count (f : Stats → Stats) : Build σ Unit := modify fun s => { s with stats := f s.stats }

/-- Runs an operation of a collaborator; its failure is a value. -/
def consult {α : Type} (op : Run σ α) : Build σ (Except Failure α) := do
  let s ← get
  let (outcome, scene) := op.run.run s.toScene
  set { s with toScene := scene }
  return outcome

/-- Asks for the content of a requirement. -/
def ask (b : Builder σ) (parent : PlacedManifest) (r : Requirement) :
    Build σ (Except Failure Content) := do
  modify fun s => { s with asked := s.asked ++ [r] }
  consult (b.resolver parent r)

/-- Asks for the label of a license text. -/
def label (b : Builder σ) (data : Bytes) : Build σ (Except Failure String) := do
  modify fun s => { s with labelled := s.labelled ++ [data] }
  consult (b.classifier data)

/-- Keeps a resolved module. -/
def keep (node : Node) (levels : Nat) (manifest : Option PlacedManifest) : Build σ Unit := do
  modify fun s => { s with cache := s.cache.store ⟨node, levels, manifest⟩ }
  debug ("Cached " ++ node.text ++ " module (" ++ toString levels ++ " levels)")

/-- A failure with the module it arose for. -/
def throwFor {α : Type} (v : ModuleVersion) : Failure → Build σ α
  | .problem p => throw (.problem (p.withModule v))
  | .fault f => throw (.fault f)

/-- Does the same for each requirement in order, up to the first failure. -/
def each (f : Requirement → Build σ Node) : List Requirement → Build σ (List Node)
  | [] => return []
  | r :: rest => do
    let n ← f r
    let ns ← each f rest
    return n :: ns

/-- The license of a requirement with the given license text. -/
def licenseFor (b : Builder σ) (r : Requirement) : Option Bytes → Build σ License
  | some (byte :: bytes) => do
    match ← label b (byte :: bytes) with
    | .ok name => return ⟨byte :: bytes, name⟩
    | .error failure => throwFor r.version failure
  | _ => do
    if b.lenient then
      warn ("No license found for " ++ r.version.text)
      count fun c => { c with degraded := c.degraded + 1 }
      return License.unknown r.version
    else throw (.problem (.new (.licenseNotFound none) none (some r.version)))

/-- How a module with the given content was resolved. -/
def resolutionOf (content : Content) : Resolution :=
  match content.license with
  | some (_ :: _) => if content.manifest.isSome then .resolved else .leaf
  | _ => .unlicensed

/-- Makes the node of a requirement whose content was found, and keeps it. -/
def settle (b : Builder σ) (expand : PlacedManifest → Build σ (List Node)) (levels : Nat)
    (r : Requirement) (content : Content) : Build σ Node := do
  let license ← licenseFor b r content.license
  let required :=
    match content.manifest with
    | some m => m.manifest.requires.length
    | none => 0
  debug ("Found " ++ license.name ++ " license and " ++ toString required ++
    " required modules")
  let dependencies ←
    match content.manifest with
    | some m => expand m
    | none => pure []
  let node : Node :=
    ⟨r.version, r.replacement, some license, dependencies, resolutionOf content⟩
  count fun c => { c with resolved := c.resolved + 1 }
  keep node levels content.manifest
  return node

/-- Stands in for a module whose content could not be obtained. -/
def skip (levels : Nat) (r : Requirement) (p : Problem) : Build σ Node := do
  warn ("Got download error: " ++ p.text)
  count fun c => { c with degraded := c.degraded + 1 }
  let node : Node :=
    ⟨r.version, r.replacement, some (License.unknown r.version), [], .skipped⟩
  keep node levels none
  return node

/-- Resolves a requirement that is met for the first time. -/
def obtain (b : Builder σ) (expand : PlacedManifest → Build σ (List Node)) (levels : Nat)
    (parent : PlacedManifest) (r : Requirement) : Build σ Node := do
  match ← ask b parent r with
  | .ok content => settle b expand levels r content
  | .error (.fault f) => throw (.fault f)
  | .error (.problem p) =>
    if b.lenient && p.kind.isFetch then skip levels r p
    else
      match b.lenient, p.kind with
      | true, .licenseNotFound manifest => settle b expand levels r ⟨manifest, none⟩
      | _, _ => throw (.problem (p.withModule r.version))

/-- The node of a requirement that was resolved before. Its dependencies are looked into again if
more levels are wanted than were expanded. -/
def reuse (expand : PlacedManifest → Build σ (List Node)) (levels : Nat) (r : Requirement)
    (entry : Cache.Entry) : Build σ Node := do
  count fun c => { c with cacheHits := c.cacheHits + 1 }
  let node (dependencies : List Node) : Node :=
    ⟨r.version, r.replacement, entry.node.license, dependencies, entry.node.resolution⟩
  match entry.manifest with
  | some m =>
    if entry.levels < levels then
      debug ("Expanding cached module " ++ r.id ++ " further")
      let dependencies ← expand m
      unless dependencies.isEmpty && entry.node.dependencies.isEmpty do
        keep (node dependencies) levels (some m)
      return node dependencies
    else return node entry.node.dependencies
  | none => return node entry.node.dependencies

/-- Ends a requirement that is met again below itself. -/
def closeCycle (b : Builder σ) (path : List ModuleId) (r : Requirement) : Build σ Node := do
  let ids := path.dropWhile (· != r.id) ++ [r.id]
  if b.lenient then
    warn ("Cyclic dependency: " ++ " -> ".intercalate ids)
    count fun c => { c with degraded := c.degraded + 1 }
    return .bare r .cycle
  else throw (.problem (.new (.cycle ids) none (some r.version)))

/-- Resolves a requirement with so many levels left, on the given path of modules from the root. -/
def visit (b : Builder σ) : Nat → List ModuleId → PlacedManifest → Requirement → Build σ Node
  | 0, _, _, r => do
    count fun c => { c with unexpanded := c.unexpanded + 1 }
    return .bare r .unexpanded
  | levels + 1, path, parent, r => do
    debug ("Exploring module " ++ r.id)
    if path.contains r.id then closeCycle b path r
    else
      let expand (m : PlacedManifest) : Build σ (List Node) :=
        each (visit b levels (path ++ [r.id]) m) m.requirements
      match (← get).cache.find? r.id with
      | some entry => reuse expand (levels + 1) r entry
      | none => obtain b expand (levels + 1) parent r

/-- Builds the tree of a manifest with so many levels below the root. -/
def tree (b : Builder σ) (root : PlacedManifest) (levels : Nat) : Build σ Tree := do
  debug "Started building the dependency graph"
  let dependencies ← each (visit b levels [] root) root.requirements
  let c := (← get).stats
  debug ("Dependency graph built successfully: " ++ toString c.resolved ++ " resolved, " ++
    toString c.cacheHits ++ " cache hits, " ++ toString c.unexpanded ++ " unexpanded, " ++
    toString c.degraded ++ " degraded")
  return ⟨⟨root.manifest.module, none, none, dependencies, .root⟩⟩

end Build

namespace Builder

variable {σ : Type}

/-- Builds a tree; a negative depth is refused before anything happens. -/
def build (b : Builder σ) (root : PlacedManifest) (depth : Int) (s : BuildState σ) :
    Except Failure Tree × BuildState σ :=
  if depth < 0 then (.error (.fault (.negativeDepth depth)), s)
  else (Build.tree b root depth.toNat).run.run s

end Builder

end Attribution

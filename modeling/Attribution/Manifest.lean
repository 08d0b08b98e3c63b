import Attribution.Module
import Attribution.Path

/-!
Manifests: what a module requires, in declared order, and the replacements it declares.
-/

namespace Attribution

/-- The replacements that a manifest declares, in the order of their first declaration. -/
abbrev Replacements := List (ModuleVersion × Replacement)

namespace Replacements

def find? (table : Replacements) (v : ModuleVersion) : Option Replacement :=
  (List.find? (·.1 == v) table).map (·.2)

/-- Declares a replacement; a later declaration for the same version takes the earlier one's
place. -/
def declare (table : Replacements) (v : ModuleVersion) (r : Replacement) : Replacements :=
  match table with
  | [] => [(v, r)]
  | (w, old) :: rest => if w = v then (w, r) :: rest else (w, old) :: declare rest v r

theorem find?_cons (v w : ModuleVersion) (r : Replacement) (rest : Replacements) :
    find? ((v, r) :: rest) w = if v = w then some r else rest.find? w := by
  by_cases h : v = w <;> simp [find?, h]

/-- The last declaration for a version is the one that counts. -/
theorem find?_declare (table : Replacements) (v w : ModuleVersion) (r : Replacement) :
    (table.declare v r).find? w = if v = w then some r else table.find? w := by
  induction table with
  | nil => exact find?_cons v w r []
  | cons e rest ih =>
    obtain ⟨u, old⟩ := e
    unfold declare
    by_cases h : u = v
    · rw [if_pos h, find?_cons, find?_cons]
      by_cases hw : u = w <;> simp_all
    · rw [if_neg h, find?_cons, find?_cons, ih]
      by_cases hw : u = w <;> simp_all [eq_comm]

end Replacements

/-- The content of a manifest file. -/
structure Manifest where
  module : ModuleVersion
  requires : List ModuleVersion
  replaces : Replacements
  deriving DecidableEq, Repr

/-- The replacement of a required version: one declared for exactly this version comes before one
declared for every version of the path. -/
def Manifest.replacementFor (m : Manifest) (v : ModuleVersion) : Option Replacement :=
  (m.replaces.find? v).or (m.replaces.find? v.anyVersion)

/-- A manifest and the directory it lies in, none when it was read from an archive. -/
structure PlacedManifest where
  manifest : Manifest
  directory : Option Path
  deriving DecidableEq, Repr

/-- The replacement in effect: a directory cannot be found from a manifest that lies in none. -/
def PlacedManifest.effective (m : PlacedManifest) (v : ModuleVersion) : Option Replacement :=
  match m.manifest.replacementFor v with
  | some (.directory path) => if m.directory.isSome then some (.directory path) else none
  | other => other

/-- The required modules with the replacements in effect, in declared order. -/
def PlacedManifest.requirements (m : PlacedManifest) : List Requirement :=
  m.manifest.requires.map fun v => ⟨v, m.effective v⟩

end Attribution

import Mathlib.Data.List.Basic
import Attribution.Manifest

/-!
The table that a list of declarations comes to: every version once, at the place of its first
declaration, with what was declared for it last. Of a manifest that lies in no directory, the
directories of the table are left out; one that is declared for a required version still hides what is
declared for every version of the path.
-/

namespace Attribution

namespace Replacements

/-- The table of a list of declarations, said without making them one after another. -/
def settled (declared : List (ModuleVersion × Replacement)) : Replacements :=
  (declared.map (·.1)).eraseDups.filterMap fun v => declared.reverse.find? (·.1 == v)

/-- The table after declarations in order, on top of what it has. -/
def declareAll (table : Replacements) (declared : List (ModuleVersion × Replacement)) :
    Replacements :=
  declared.foldl (fun table e => table.declare e.1 e.2) table

theorem keys_declare (table : Replacements) (v : ModuleVersion) (r : Replacement) :
    (table.declare v r).map (·.1) =
      if v ∈ table.map (·.1) then table.map (·.1) else table.map (·.1) ++ [v] := by
  induction table with
  | nil => rfl
  | cons e table ih =>
      obtain ⟨w, old⟩ := e
      unfold declare
      by_cases same : w = v
      · simp [same]
      · rw [if_neg same, List.map_cons, ih]
        by_cases later : v ∈ table.map (·.1) <;> simp_all [eq_comm]

/-- A declaration adds its version at the end unless the version is there. -/
theorem keys_declareAll (table : Replacements) {seen : List ModuleVersion}
    (same : table.map (·.1) = seen.eraseDups) (declared : List (ModuleVersion × Replacement)) :
    (table.declareAll declared).map (·.1) = (seen ++ declared.map (·.1)).eraseDups := by
  induction declared generalizing table seen with
  | nil => simpa [declareAll] using same
  | cons e declared ih =>
      have next : (table.declare e.1 e.2).map (·.1) = (seen ++ [e.1]).eraseDups := by
        rw [keys_declare, same, List.eraseDups_append]
        by_cases old : e.1 ∈ seen <;> simp [List.removeAll, List.eraseDups_cons, old]
      have rest := ih _ next
      rw [List.append_assoc] at rest
      exact rest

theorem find?_declareAll (table : Replacements) (declared : List (ModuleVersion × Replacement))
    (v : ModuleVersion) :
    (table.declareAll declared).find? v = (find? declared.reverse v).or (table.find? v) := by
  induction declared generalizing table with
  | nil => rfl
  | cons e declared ih =>
      have last : find? (e :: declared).reverse v =
          (find? declared.reverse v).or (find? [e] v) := by
        rw [find?, find?, find?, List.reverse_cons, List.find?_append, Option.map_or]
      have step := ih (table.declare e.1 e.2)
      rw [find?_declare] at step
      rw [last, find?_cons, Option.or_assoc]
      refine step.trans (congrArg _ ?_)
      by_cases same : e.1 = v
      · rw [if_pos same, if_pos same, Option.some_or]
      · rw [if_neg same, if_neg same]
        rfl

theorem nodup_declare {table : Replacements} (once : (table.map (·.1)).Nodup) (v : ModuleVersion)
    (r : Replacement) : ((table.declare v r).map (·.1)).Nodup := by
  rw [keys_declare]
  by_cases old : v ∈ table.map (·.1)
  · rwa [if_pos old]
  · rw [if_neg old]
    refine List.nodup_append.2 ⟨once, by simp, fun a ha b hb same => ?_⟩
    rw [List.mem_singleton.1 hb] at same
    exact old (same ▸ ha)

theorem nodup_declareAll (table : Replacements) (once : (table.map (·.1)).Nodup)
    (declared : List (ModuleVersion × Replacement)) :
    ((table.declareAll declared).map (·.1)).Nodup := by
  induction declared generalizing table with
  | nil => exact once
  | cons e declared ih => exact ih _ (nodup_declare once e.1 e.2)

theorem find?_key (table : Replacements) (v : ModuleVersion) :
    List.find? (·.1 == v) table = (table.find? v).map (v, ·) := by
  induction table with
  | nil => rfl
  | cons e table ih =>
      obtain ⟨w, r⟩ := e
      rw [find?_cons]
      by_cases same : w = v
      · simp [same]
      · rw [List.find?_cons_of_neg (by simpa using same), if_neg same, ih]

/-- A table that has each version once is known by its versions and what it has for them. -/
theorem filterMap_find? {table : Replacements} (once : (table.map (·.1)).Nodup) :
    (table.map (·.1)).filterMap (fun v => (table.find? v).map (v, ·)) = table := by
  induction table with
  | nil => rfl
  | cons e table ih =>
      obtain ⟨v, r⟩ := e
      obtain ⟨new, once⟩ := List.nodup_cons.1 once
      have rest : ∀ w ∈ table.map (·.1),
          (Replacements.find? ((v, r) :: table) w).map (w, ·) =
            (Replacements.find? table w).map (w, ·) := fun w hw => by
        have other : v ≠ w := fun same => new (same ▸ hw)
        rw [find?_cons, if_neg other]
      rw [List.map_cons, List.filterMap_cons, find?_cons, if_pos rfl]
      exact congrArg _ ((List.filterMap_congr rest).trans (ih once))

theorem declareAll_eq_settled (declared : List (ModuleVersion × Replacement)) :
    declareAll [] declared = settled declared := by
  have keys : (declareAll [] declared).map (·.1) = (declared.map (·.1)).eraseDups :=
    keys_declareAll [] List.eraseDups_nil.symm declared
  rw [← filterMap_find? (nodup_declareAll [] List.nodup_nil declared), keys, settled]
  refine List.filterMap_congr fun v _ => ?_
  rw [find?_declareAll, find?_key]
  exact congrArg _ Option.or_none

/-- Of the declarations for a version, the last one is in the table. -/
theorem mem_settled_iff {declared : List (ModuleVersion × Replacement)}
    {e : ModuleVersion × Replacement} :
    e ∈ settled declared ↔
      ∃ before after, declared = before ++ e :: after ∧ ∀ f ∈ after, f.1 ≠ e.1 := by
  have found : e ∈ settled declared ↔ declared.reverse.find? (·.1 == e.1) = some e := by
    constructor
    · intro mem
      obtain ⟨v, -, found⟩ := List.mem_filterMap.1 mem
      have same : e.1 = v := by simpa using List.find?_some found
      rwa [same]
    · intro found
      have mem : e ∈ declared := List.mem_reverse.1 (List.mem_of_find?_eq_some found)
      refine List.mem_filterMap.2 ⟨e.1, List.mem_eraseDups.2 ?_, found⟩
      exact List.mem_map.2 ⟨e, mem, rfl⟩
  rw [found, List.find?_eq_some_iff_append]
  constructor
  · rintro ⟨-, after, before, split, none⟩
    refine ⟨before.reverse, after.reverse, ?_, fun f mem => ?_⟩
    · rw [← List.reverse_reverse declared, split]
      simp
    · simpa using none f (List.mem_reverse.1 mem)
  · rintro ⟨before, after, rfl, none⟩
    refine ⟨beq_self_eq_true e.1, after.reverse, before.reverse, by simp, fun f mem => ?_⟩
    simpa using none f (List.mem_reverse.1 mem)

/-- The table without its directories. -/
def remote (table : Replacements) : Replacements := table.filter (!·.2.isDirectory)

theorem mem_of_find? {table : Replacements} {v : ModuleVersion} {r : Replacement}
    (found : table.find? v = some r) : (v, r) ∈ table := by
  obtain ⟨e, here, rfl⟩ := Option.map_eq_some_iff.1 found
  have same : e.1 = v := by simpa using List.find?_some here
  exact same ▸ List.mem_of_find?_eq_some here

theorem find?_eq_none {table : Replacements} {v : ModuleVersion} (absent : v ∉ table.map (·.1)) :
    table.find? v = none := by
  rw [find?, Option.map_eq_none_iff, List.find?_eq_none]
  intro e mem same
  exact absent (List.mem_map.2 ⟨e, mem, beq_iff_eq.1 same⟩)

/-- Where each version stands once, nothing else comes to light when a directory is left out. -/
theorem find?_remote {table : Replacements} (once : (table.map (·.1)).Nodup) (v : ModuleVersion) :
    table.remote.find? v = (table.find? v).filter (!·.isDirectory) := by
  induction table with
  | nil => rfl
  | cons e table ih =>
      obtain ⟨w, r⟩ := e
      obtain ⟨new, once⟩ := List.nodup_cons.1 once
      have rest := ih once
      rw [remote] at rest
      rw [remote, List.filter_cons, find?_cons]
      by_cases same : w = v
      · rw [if_pos same]
        cases r with
        | module u => exact (find?_cons ..).trans (if_pos same)
        | directory path =>
            have absent : find? table v = none := find?_eq_none (same ▸ new)
            rw [absent] at rest
            exact rest
      · rw [if_neg same, ← rest]
        cases r with
        | module u => exact (find?_cons ..).trans (if_neg same)
        | directory path => rfl

end Replacements

/-! ### Manifests without a directory -/

/-- The manifest without the directories that it declares. -/
def Manifest.remote (m : Manifest) : Manifest := { m with replaces := m.replaces.remote }

namespace PlacedManifest

theorem effective_eq_some {p : PlacedManifest} {v : ModuleVersion} {r : Replacement}
    (here : p.effective v = some r) : p.manifest.replacementFor v = some r := by
  unfold effective at here
  split at here
  next path found =>
    split at here
    · rw [found, here]
    · cases here
  next => exact here

theorem effective_archived (m : Manifest) (v : ModuleVersion) :
    effective ⟨m, none⟩ v = (m.replacementFor v).filter (!·.isDirectory) := by
  rw [effective]
  cases m.replacementFor v with
  | none => rfl
  | some r => cases r <;> rfl

/-- A directory that is declared for a version hides the module that is declared for every version of
the path. -/
def Shadowed (m : Manifest) (v : ModuleVersion) : Prop :=
  (m.replaces.find? v).any (·.isDirectory) ∧ (m.replaces.find? v.anyVersion).any (!·.isDirectory)

instance (m : Manifest) (v : ModuleVersion) : Decidable (Shadowed m v) :=
  inferInstanceAs (Decidable (_ ∧ _))

theorem effective_remote_iff {m : Manifest} (once : (m.replaces.map (·.1)).Nodup)
    (v : ModuleVersion) :
    effective ⟨m, none⟩ v = effective ⟨m.remote, none⟩ v ↔ ¬ Shadowed m v := by
  rw [effective_archived, effective_archived, Manifest.replacementFor, Manifest.replacementFor,
    Manifest.remote, Replacements.find?_remote once, Replacements.find?_remote once, Shadowed]
  rcases m.replaces.find? v with _ | (path | u) <;>
    rcases m.replaces.find? v.anyVersion with _ | (path' | w) <;>
      simp [Option.filter, Replacement.isDirectory]

/-- The directories that a manifest without a place declares are as if they were not there, just where
none of them hides a module from a requirement. -/
theorem requirements_remote_iff {m : Manifest} (once : (m.replaces.map (·.1)).Nodup) :
    requirements ⟨m, none⟩ = requirements ⟨m.remote, none⟩ ↔ ∀ v ∈ m.requires, ¬ Shadowed m v := by
  rw [requirements, requirements, Manifest.remote, List.map_inj_left]
  refine forall₂_congr fun v _ => ?_
  rw [← effective_remote_iff once, Requirement.mk.injEq, and_iff_right rfl, Manifest.remote]

/-- A directory for every version gives way to a module for the one that is required, and a directory
for one version alone hides nothing. -/
theorem requirements_remote_iff_apart :
    let m : Manifest := ⟨⟨"m", ""⟩, [⟨"a", "v1"⟩, ⟨"b", "v1"⟩],
      [(⟨"a", ""⟩, .directory "./a"), (⟨"b", "v1"⟩, .directory "./b"),
        (⟨"a", "v1"⟩, .module ⟨"c", "v2"⟩)]⟩
    (m.replaces.map (·.1)).Nodup ∧ (∀ v ∈ m.requires, ¬ Shadowed m v) ∧
      requirements ⟨m, none⟩ = requirements ⟨m.remote, none⟩ :=
  ⟨by decide, by decide, (requirements_remote_iff (by decide)).2 (by decide)⟩

/-- A directory for one version, and a module for every version. -/
theorem requirements_shadowed :
    let m : Manifest := ⟨⟨"m", ""⟩, [⟨"a", "v1"⟩],
      [(⟨"a", "v1"⟩, .directory "./x"), (⟨"a", ""⟩, .module ⟨"b", "v2"⟩)]⟩
    requirements ⟨m, none⟩ = [⟨⟨"a", "v1"⟩, none⟩] ∧
      requirements ⟨m.remote, none⟩ = [⟨⟨"a", "v1"⟩, some (.module ⟨"b", "v2"⟩)⟩] := by
  decide

end PlacedManifest

end Attribution

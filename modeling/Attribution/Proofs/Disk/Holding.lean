import Attribution.Proofs.Disk

/-!
What a directory holds. It is listed in ascending order and without repetition, so that the files in
it come in one order only, that of their names.
-/

namespace Attribution

namespace Disk

variable {d : Disk} {p directory : Path} {spot names : List String} {name : String}
  {files : List (String × Bytes)}

/-- A directory holds these files, and else only what is no file. -/
structure Holds (d : Disk) (directory : Path) (names : List String)
    (files : List (String × Bytes)) : Prop where
  listed : d.list directory = .ok names
  file : ∀ f ∈ files, f.1 ∈ names ∧ d.isFile (directory ++ (⟨"", [f.1]⟩ : Path)) = .ok true ∧
    d.read (directory ++ (⟨"", [f.1]⟩ : Path)) = .ok f.2
  other : ∀ name ∈ names, (∀ f ∈ files, f.1 ≠ name) →
    d.isFile (directory ++ (⟨"", [name]⟩ : Path)) = .ok false

theorem nodup_eraseDups (names : List String) : names.eraseDups.Nodup := by
  cases names with
  | nil => simp
  | cons name rest =>
      rw [List.eraseDups_cons, List.nodup_cons]
      refine ⟨by simp [List.mem_eraseDups], ?_⟩
      exact nodup_eraseDups (rest.filter fun other => !other == name)
termination_by names.length
decreasing_by exact Nat.lt_succ_of_le (List.length_filter_le _ _)

/-- Sorting names that differ leaves each of them before a greater one. -/
theorem ascending_mergeSort (once : names.Nodup) :
    (names.mergeSort fun a b => decide (¬ b < a)).Pairwise (· < ·) := by
  have sorted : (names.mergeSort fun a b => decide (¬ b < a)).Pairwise
      fun a b => decide (¬ b < a) = true := by
    refine List.pairwise_mergeSort (fun a b c first second => ?_) (fun a b => ?_) names
    · simp only [decide_eq_true_eq, String.not_lt] at first second ⊢
      exact String.le_trans first second
    · simpa only [Bool.or_eq_true, decide_eq_true_eq, String.not_lt] using String.le_total a b
  refine (sorted.and ((List.mergeSort_perm names _).nodup_iff.mpr once)).imp fun ⟨le, ne⟩ => ?_
  refine Decidable.byContradiction fun above => ne (String.le_antisymm ?_ (String.not_lt.mp above))
  exact String.not_lt.mp (of_decide_eq_true le)

/-- A directory is listed in ascending order. -/
theorem ascending_of_list (listed : d.list p = .ok names) : names.Pairwise (· < ·) := by
  unfold list at listed
  cases walked : d.walk p with
  | error refusal => rw [walked] at listed; cases listed
  | ok spot =>
      rw [walked] at listed
      simp only [Except.bind] at listed
      split at listed
      next =>
        obtain rfl := Except.ok.inj listed
        exact ascending_mergeSort (nodup_eraseDups _)
      next => cases listed

theorem mem_namesBelow {data : Bytes} (found : d.item? (spot ++ [name]) = some (.file data)) :
    name ∈ d.namesBelow spot := by
  unfold item? at found
  split at found
  next place item entry =>
    have mem := List.mem_of_find?_eq_some entry
    have key : place = spot ++ [name] := by simpa using List.find?_some entry
    refine List.mem_eraseDups.mpr (List.mem_filterMap.mpr ⟨(place, item), mem, ?_⟩)
    simp [key, List.isPrefixOf_iff_prefix.mpr (List.prefix_append spot [name])]
  next =>
    split at found <;> cases found

/-- A directory holds what the tree has there, if its path and the paths of all that lies directly
in it stand for themselves. -/
theorem holds_of_plain (plain : d.plain spot = true) (here : d.item? spot = some .directory)
    (below : ∀ name ∈ d.namesBelow spot, d.plain (spot ++ [name]) = true)
    (held : ∀ name data, (name, data) ∈ files ↔ d.item? (spot ++ [name]) = some (.file data)) :
    d.Holds (Path.absolute spot) ((d.namesBelow spot).mergeSort fun a b => decide (¬ b < a))
      files where
  listed := by
    rw [list, walk_of_plain plain]
    simp only [Except.bind, here]
  file f mem := by
    have found := (held f.1 f.2).mp mem
    have named := mem_namesBelow found
    exact ⟨List.mem_mergeSort.mpr named, isFile_of_plain (below f.1 named) found,
      read_of_plain (below f.1 named) found⟩
  other name mem none := by
    have reached := below name (List.mem_mergeSort.mp mem)
    have sound := sound_of_leads (Bool.and_eq_true_iff.mp reached).1
    change d.isFile (Path.absolute (spot ++ [name])) = .ok false
    rw [isFile, walk_of_plain reached]
    simp only [Path.absolute, sound, Bool.not_true, Bool.false_eq_true, if_false]
    split
    next data found => exact absurd rfl (none _ ((held name data).mpr found))
    next => rfl

end Disk

end Attribution

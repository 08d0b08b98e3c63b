import Attribution.Disk

/-!
Writing a file. What is written at a path is read there again: the walk that found the place leads
to it on the tree that has the file, and nothing else changed.
-/

namespace Attribution

namespace Disk

variable {d d' : Disk} {p : Path} {spot place base names : List String} {name : String}
  {item : Item} {data : Bytes} {links : Nat}

/-- There is something at every place above, and no link there or here. -/
structure Reached (d : Disk) (spot : List String) : Prop where
  grounded : ∀ above, above <+: spot → above ≠ spot → d.item? above ≠ none
  straight : ∀ above, above <+: spot → above ≠ [] → ∀ target, d.item? above ≠ some (.link target)

theorem Reached.top : d.Reached [] where
  grounded _ below distinct := absurd (List.prefix_nil.mp below) distinct
  straight _ below nonempty := absurd (List.prefix_nil.mp below) nonempty

theorem Reached.back (h : d.Reached spot) : d.Reached spot.dropLast where
  grounded above below distinct := by
    refine h.grounded above (below.trans (List.dropLast_prefix spot)) ?_
    rintro rfl
    exact distinct (below.eq_of_length_le (List.dropLast_prefix above).length_le)
  straight above below := h.straight above (below.trans (List.dropLast_prefix spot))

theorem Reached.further (h : d.Reached base) (here : d.item? base ≠ none)
    (plain : ∀ target, d.item? (base ++ [name]) ≠ some (.link target)) :
    d.Reached (base ++ [name]) where
  grounded above below distinct := by
    obtain same | below := List.prefix_concat_iff.mp below
    · exact absurd same distinct
    by_cases same : above = base
    · exact same ▸ here
    · exact h.grounded above below same
  straight above below nonempty := by
    obtain rfl | below := List.prefix_concat_iff.mp below
    · exact plain
    · exact h.straight above below nonempty

theorem Reached.leap (h : d.Reached base) (target : String) :
    d.Reached (leap base target).1 := by
  by_cases relative : (Path.ofString target).root = ""
  · simpa only [Disk.leap, if_pos relative] using h
  · simpa only [Disk.leap, if_neg relative] using Reached.top

/-- A walk ends at a place that it reached. -/
theorem Reached.walkFrom {lastMayMiss : Bool} (h : d.Reached base)
    (walked : d.walkFrom lastMayMiss links base names = .ok spot) : d.Reached spot := by
  fun_induction Disk.walkFrom d lastMayMiss links base names with
  | case1 => cases walked; exact h
  | case2 _ _ _ _ ih => exact ih h.back walked
  | case3 _ _ _ _ _ _ _ ih => exact ih h walked
  | case6 _ _ _ _ directory _ _ _ _ missing =>
      cases walked
      exact h.further (by simp [directory]) (by simp [missing])
  | case9 _ _ _ _ _ _ _ _ _ target _ _ _ _ leads ih =>
      refine ih ?_ walked
      have start := h.leap target
      rwa [leads] at start
  | case10 _ _ _ _ directory _ _ _ _ item plain found ih =>
      refine ih (h.further (by simp [directory]) ?_) walked
      rintro target link
      exact plain target (Option.some.inj (found.symm.trans link))
  | _ => cases walked

/-- Where an item is looked for after another was put somewhere. -/
theorem find?_put :
    (d.put spot item).items.find? (·.1 == place) =
      if place = spot then some (spot, item) else d.items.find? (·.1 == place) := by
  unfold put
  split
  next present =>
    have keys : ((·.1 == place) ∘ fun e : List String × Item => if e.1 = spot then (spot, item) else e) =
        (·.1 == place) := by
      funext e
      by_cases h : e.1 = spot <;> simp [h]
    rw [List.find?_map, keys]
    split
    next same =>
      subst same
      obtain ⟨entry, found⟩ := Option.isSome_iff_exists.mp
        (List.find?_isSome.mpr (List.any_eq_true.mp present))
      have key : entry.1 = place := by simpa using List.find?_some found
      simp [found, key]
    next distinct =>
      cases found : d.items.find? (·.1 == place) with
      | none => rfl
      | some entry =>
          have key : entry.1 = place := by simpa using List.find?_some found
          simp [key, distinct]
  next absent =>
    rw [List.find?_append]
    split
    next same =>
      subst same
      have none : d.items.find? (·.1 == place) = none :=
        List.find?_eq_none.mpr fun e he key => absent (List.any_eq_true.mpr ⟨e, he, key⟩)
      simp [none]
    next distinct => simp [Ne.symm distinct]

/-- What is above an item after one was put somewhere. -/
theorem any_isPrefixOf_put :
    (d.put spot item).items.any (place.isPrefixOf ·.1) =
      (d.items.any (place.isPrefixOf ·.1) || place.isPrefixOf spot) := by
  unfold put
  split
  next present =>
    obtain ⟨entry, member, key⟩ := List.any_eq_true.mp present
    have keys : ((fun e : List String × Item => place.isPrefixOf e.1) ∘
        fun e => if e.1 = spot then (spot, item) else e) = fun e => place.isPrefixOf e.1 := by
      funext e
      by_cases h : e.1 = spot <;> simp [h]
    rw [List.any_map, keys, Bool.eq_iff_iff, Bool.or_eq_true]
    refine ⟨.inl, fun h => h.elim id fun below => ?_⟩
    exact List.any_eq_true.mpr ⟨entry, member, eq_of_beq key ▸ below⟩
  next absent => simp

theorem place_put : (d.put spot item).place p = d.place p := by
  have home : (d.put spot item).home = d.home := by
    unfold put
    split <;> rfl
  rw [Disk.place, Disk.place, home]

theorem item?_put_self : (d.put spot item).item? spot = some item := by
  rw [item?, find?_put, if_pos rfl]

/-- Putting an item at a place leaves every other place as it is. -/
theorem item?_put_of_ne (grounded : ∀ above, above <+: spot → above ≠ spot → d.item? above ≠ none)
    (h : place ≠ spot) : (d.put spot item).item? place = d.item? place := by
  rw [item?, item?, find?_put, if_neg h, any_isPrefixOf_put]
  cases found : d.items.find? (·.1 == place) with
  | some entry => rfl
  | none =>
      -- A place above the new item was a directory before: that one is below it is no news.
      cases below : place.isPrefixOf spot with
      | false => rw [Bool.or_false]
      | true =>
          have there := grounded place (List.isPrefixOf_iff_prefix.mp below) h
          rw [item?, found] at there
          have directory : (place.isEmpty || d.items.any (place.isPrefixOf ·.1)) = true :=
            Decidable.byContradiction fun nothing => there (if_neg nothing)
          simp only [directory, Bool.or_true, if_true]

/-- The walk to a place leads there also after a file was put at it. -/
theorem walkFrom_put (h : d.Reached base) (free : d.item? spot ≠ some .directory)
    (walked : d.walkFrom true links base names = .ok spot) :
    (d.put spot (.file data)).walkFrom false links base names = .ok spot := by
  have reached := h.walkFrom walked
  have other : ∀ {place found}, d.item? place = found → place ≠ spot →
      (d.put spot (.file data)).item? place = found :=
    fun found distinct => (item?_put_of_ne reached.grounded distinct).trans found
  have enters : ∀ {place}, d.item? place = some .directory →
      (d.put spot (.file data)).item? place = some .directory := fun directory =>
    other directory fun same => free (same ▸ directory)
  fun_induction Disk.walkFrom d true links base names with
  | case1 => cases walked; rw [Disk.walkFrom]
  | case2 _ _ _ directory ih =>
      rw [Disk.walkFrom]
      simp only [enters directory, if_true]
      exact ih h.back walked
  | case3 _ _ _ _ directory up stays ih =>
      rw [Disk.walkFrom]
      simp only [enters directory, if_neg up, stays, if_true]
      exact ih h walked
  | case6 _ _ name rest directory up stays _ fits missing last =>
      cases walked
      obtain rfl : rest = [] := by simpa using last
      rw [Disk.walkFrom]
      simp only [enters directory, if_neg up, stays, fits, Bool.false_and, if_false,
        Bool.false_eq_true, item?_put_self]
      rw [Disk.walkFrom]
  | case9 links base name rest directory up stays _ fits target link more start names leads ih =>
      have distinct : base ++ [name] ≠ spot := by
        rintro rfl
        exact reached.straight _ (List.prefix_refl _) (by simp) target link
      have start := h.leap target
      rw [leads] at start
      rw [Disk.walkFrom]
      simp only [enters directory, if_neg up, stays, fits, Bool.false_and, if_false,
        Bool.false_eq_true, other link distinct, if_neg more, leads]
      exact ih start walked
  | case10 links base name rest directory up stays _ fits item plain found ih =>
      have next := ih (h.further (by simp [directory]) fun target link =>
        plain target (Option.some.inj (found.symm.trans link))) walked
      rw [Disk.walkFrom]
      simp only [enters directory, if_neg up, stays, fits, Bool.false_and, if_false,
        Bool.false_eq_true]
      by_cases same : base ++ [name] = spot
      · rw [same, item?_put_self]
        exact same ▸ next
      · rw [other found same]
        cases item with
        | link target => exact absurd rfl (plain target)
        | file | directory => exact next
  | _ => cases walked

/-- What was written is read at the same path. -/
theorem read_of_write (h : d.write p data = .ok d') : d'.read p = .ok data := by
  unfold write walkPath at h
  split at h
  next long => cases h
  next fits =>
    cases walked : d.walkFrom true linkLimit [] (d.place p) with
    | error refusal => rw [walked] at h; cases h
    | ok spot =>
        rw [walked] at h
        simp only [Except.bind] at h
        split at h
        next => cases h
        next free =>
          cases h
          rw [read, walk, walkPath, if_neg fits, place_put, walkFrom_put Reached.top free walked]
          simp only [Except.bind, item?_put_self]

end Disk

end Attribution

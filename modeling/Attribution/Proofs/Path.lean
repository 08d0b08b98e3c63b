import Attribution.Path

/-!
What the spelling of a path is made of.
-/

namespace Attribution

namespace Path

variable {cs name : List Char} {c : Char} {s : String}

theorem mem_go (hn : name ∈ namesOf.go cs) (hc : c ∈ name) : c ∈ cs := by
  fun_induction namesOf.go cs generalizing name with
  | case1 =>
      obtain rfl := List.mem_singleton.mp hn
      exact hc
  | case2 rest ih =>
      obtain rfl | hn := List.mem_cons.mp hn
      · cases hc
      · exact List.mem_cons_of_mem _ (ih hn hc)
  | case3 first rest _ _ _ =>
      obtain rfl := List.mem_singleton.mp hn
      exact List.mem_singleton.mp hc ▸ List.mem_cons_self
  | case4 first rest _ head tail found ih =>
      rw [found] at ih
      obtain rfl | hn := List.mem_cons.mp hn
      · obtain rfl | hc := List.mem_cons.mp hc
        · exact List.mem_cons_self
        · exact List.mem_cons_of_mem _ (ih List.mem_cons_self hc)
      · exact List.mem_cons_of_mem _ (ih (List.mem_cons_of_mem _ hn) hc)

/-- The characters of names are those of the text they were read from. -/
theorem mem_namesOf {text : String} (hn : text ∈ namesOf cs) (hc : c ∈ text.toList) : c ∈ cs := by
  obtain ⟨name, member, kept⟩ := List.mem_filterMap.mp hn
  split at kept
  · cases kept
  · obtain rfl := Option.some.inj kept
    exact mem_go member (by simpa using hc)

theorem mem_intercalate {sep : List Char} {pieces : List (List Char)}
    (h : c ∈ sep.intercalate pieces) : c ∈ sep ∨ ∃ piece ∈ pieces, c ∈ piece := by
  induction pieces with
  | nil => simp at h
  | cons first rest ih =>
      cases rest with
      | nil => exact .inr ⟨first, List.mem_cons_self, by simpa using h⟩
      | cons second rest =>
          rw [List.intercalate_cons_cons, List.mem_append, List.mem_append] at h
          obtain (h | h) | h := h
          · exact .inr ⟨first, List.mem_cons_self, h⟩
          · exact .inl h
          · exact (ih h).imp id fun ⟨piece, hp, hc⟩ => ⟨piece, List.mem_cons_of_mem _ hp, hc⟩

/-- The spelling of a path that was read has no characters of its own but slashes and dots. -/
theorem mem_toString_ofString (h : c ∈ (ofString s).toString.toList) :
    c ∈ s.toList ∨ c = '/' ∨ c = '.' := by
  unfold toString at h
  extract_lets text at h
  split at h
  next => simp_all
  next =>
    rw [String.toList_append, List.mem_append] at h
    obtain h | h := h
    · right; left
      simp only [ofString] at h
      split at h <;> simp_all
    · rw [String.toList_intercalate] at h
      obtain h | ⟨piece, hp, hc⟩ := mem_intercalate h
      · simp_all
      · obtain ⟨name, hn, rfl⟩ := List.mem_map.mp hp
        exact .inl (mem_namesOf hn hc)

end Path

end Attribution

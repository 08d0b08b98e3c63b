import Attribution.Proofs.Graph.Traversal

/-!
What becomes of the kept modules in a run. A run leaves the modules on its path alone, and what was
kept before stays kept, under the same license and manifest and with no fewer levels, however the
run ends.
-/

namespace Attribution

variable {σ : Type}

namespace Cache

/-- An entry that another one may take the place of: the module is the same, and it is expanded no
less. -/
structure Entry.LE (old new : Entry) : Prop where
  levels : old.levels ≤ new.levels
  manifest : new.manifest = old.manifest
  license : new.node.license = old.node.license
  resolution : new.node.resolution = old.node.resolution

theorem Entry.LE.refl (e : Entry) : e.LE e := ⟨Int.le_refl _, rfl, rfl, rfl⟩

theorem Entry.LE.trans {e f g : Entry} (h : e.LE f) (k : f.LE g) : e.LE g :=
  ⟨Int.le_trans h.levels k.levels, k.manifest.trans h.manifest, k.license.trans h.license,
    k.resolution.trans h.resolution⟩

/-- Whatever is kept in one cache is kept in the other. -/
def LE (c c' : Cache) : Prop := ∀ id e, c.find? id = some e → ∃ e', c'.find? id = some e' ∧ e.LE e'

theorem LE.refl (c : Cache) : c.LE c := fun _ e h => ⟨e, h, .refl e⟩

theorem LE.trans {c c' c'' : Cache} (h : c.LE c') (k : c'.LE c'') : c.LE c'' := by
  intro id e he
  obtain ⟨e', he', le⟩ := h id e he
  obtain ⟨e'', he'', le'⟩ := k id e' he'
  exact ⟨e'', he'', le.trans le'⟩

theorem LE.missed {c c' : Cache} (h : c.LE c') {id : ModuleId} (miss : c'.find? id = none) :
    c.find? id = none := by
  cases he : c.find? id with
  | none => rfl
  | some e =>
      obtain ⟨e', he', -⟩ := h id e he
      rw [miss] at he'
      cases he'

theorem LE.kept {c c' : Cache} (h : c.LE c') {id : ModuleId} (kept : c.find? id ≠ none) :
    c'.find? id ≠ none := fun miss => kept (h.missed miss)

theorem find?_store_self (c : Cache) (e : Entry) : (c.store e).find? e.node.id = some e := by
  rw [find?_store, if_pos rfl]

theorem find?_of_store {c : Cache} {e f : Entry} {id : ModuleId}
    (h : (c.store e).find? id = some f) : (id = e.node.id ∧ f = e) ∨ c.find? id = some f := by
  rw [find?_store] at h
  split at h
  next same =>
    cases h
    exact .inl ⟨same, rfl⟩
  next => exact .inr h

theorem LE.store {c : Cache} {e : Entry} (h : ∀ old, c.find? e.node.id = some old → old.LE e) :
    c.LE (c.store e) := by
  intro id old hold
  by_cases same : id = e.node.id
  · exact ⟨e, by rw [find?_store, if_pos same], h old (same ▸ hold)⟩
  · exact ⟨old, by rw [find?_store, if_neg same, hold], .refl old⟩

end Cache

namespace Build

variable {b : Builder σ} {parent : PlacedManifest} {r : Requirement} {path : List ModuleId}
  {s t u : BuildState σ} {n : Nat} {rs : List Requirement} {o : Except Failure (List Node)}

theorem Opens.find?_of_mem {opening : Opening} (opens : Opens b parent r path s n opening t)
    {id : ModuleId} (h : id ∈ path) : t.cache.find? id = s.cache.find? id := by
  cases opening with
  | done o =>
      obtain ⟨cache, -⟩ | ⟨new, -, -, ⟨f, -, cache⟩ | ⟨l, resolution, -, cache⟩⟩ := opens.of_done
      · rw [cache]
      · rw [cache]
      · rw [cache, Cache.find?_store, if_neg]
        rintro rfl
        exact new h
  | expand d => rw [opens.of_expand.1]

theorem Opens.cache_of_error {f : Failure}
    (opens : Opens b parent r path s n (.done (.error f)) t) : t.cache = s.cache := by
  obtain ⟨cache, -⟩ | ⟨-, -, -, ⟨g, -, cache⟩ | ⟨l, resolution, outcome, -⟩⟩ := opens.of_done
  · exact cache
  · exact cache
  · cases outcome

theorem find?_finish_of_ne {d : Draft} {ns : List Node} {id : ModuleId} (h : id ≠ r.id) :
    (d.finish n r ns u).cache.find? id = u.cache.find? id := by
  refine Draft.finish_induction (P := fun c => c.find? id = u.cache.find? id) ?_ rfl
  rw [Cache.find?_store]
  exact if_neg h

/-- A run leaves the modules on its path as they were kept, if they were. -/
theorem Expands.find?_of_mem (run : Expands b n path parent rs s o t) {id : ModuleId}
    (h : id ∈ path) : t.cache.find? id = s.cache.find? id := by
  induction run with
  | nil => rfl
  | halt opens => exact opens.find?_of_mem h
  | pass opens after ih => rw [ih h, opens.find?_of_mem h]
  | sink opens below ih => rw [ih (List.mem_append_left _ h), opens.find?_of_mem h]
  | @rise n path parent r rest s t u v d ns o opens below after ihBelow ihAfter =>
      have other : id ≠ r.id := by
        rintro rfl
        exact opens.of_expand.2.1 h
      rw [ihAfter h, find?_finish_of_ne other, ihBelow (List.mem_append_left _ h),
        opens.find?_of_mem h]

theorem Opens.cache_le {opening : Opening} (opens : Opens b parent r path s n opening t) :
    s.cache.LE t.cache := by
  cases opening with
  | done o =>
      obtain ⟨cache, -⟩ | ⟨-, miss, -, ⟨f, -, cache⟩ | ⟨l, resolution, -, cache⟩⟩ := opens.of_done
      · rw [cache]
        exact .refl _
      · rw [cache]
        exact .refl _
      · rw [cache]
        exact .store fun old hold => by
          rw [Node.id, Node.requirement, miss] at hold
          cases hold
  | expand d =>
      rw [opens.of_expand.1]
      exact .refl _

theorem Opens.finish_le {d : Draft} (opens : Opens b parent r path s n (.expand d) t)
    (same : u.cache.find? r.id = s.cache.find? r.id) (ns : List Node) :
    u.cache.LE (d.finish n r ns u).cache := by
  refine Draft.finish_induction (.store fun old hold => ?_) (.refl _)
  rw [Draft.node_id, same] at hold
  obtain ⟨-, -, ⟨miss, -⟩ | ⟨e, hit, -, few, known, license, resolution, -⟩⟩ := opens.of_expand
  · rw [miss] at hold
    cases hold
  · rw [hit] at hold
    cases hold
    exact ⟨Int.le_of_lt few, known.symm, license.symm, resolution.symm⟩

theorem Opens.find?_below {d : Draft} (opens : Opens b parent r path s (n + 1) (.expand d) t)
    (below : Expands b n (path ++ [r.id]) d.manifest d.manifest.requirements t o u) :
    u.cache.find? r.id = s.cache.find? r.id := by
  rw [below.find?_of_mem (List.mem_append_right _ List.mem_cons_self), opens.of_expand.1]

theorem Opens.find?_finish {d : Draft} (opens : Opens b parent r path s n (.expand d) t)
    (same : u.cache.find? r.id = s.cache.find? r.id) (ns : List Node) :
    ∃ e, (d.finish n r ns u).cache.find? r.id = some e ∧ e.manifest = some d.manifest := by
  obtain cache | ⟨cache, -, former⟩ := d.finish_cache n r ns u
  · exact ⟨_, by rw [cache, Cache.find?_store, Draft.node_id, if_pos rfl], rfl⟩
  · obtain ⟨-, -, ⟨-, -, none, -⟩ | ⟨e, hit, -, -, known, -⟩⟩ := opens.of_expand
    · rw [none] at former
      cases former
    · exact ⟨e, by rw [cache, same, hit], known⟩

/-- What holds whether or not a draft is kept when it is finished: if it is, it takes the place of what
was kept of its module. -/
theorem Opens.finish_induction {P : Cache → Prop} {d : Draft} {ns : List Node}
    (opens : Opens b parent r path s n (.expand d) t)
    (unchanged : u.cache.find? r.id = s.cache.find? r.id)
    (kept : u.cache.LE (u.cache.store ⟨d.node r ns, n, some d.manifest⟩) →
      P (u.cache.store ⟨d.node r ns, n, some d.manifest⟩))
    (same : P u.cache) : P (d.finish n r ns u).cache := by
  have le := opens.finish_le unchanged ns
  obtain cache | ⟨cache, -, -⟩ := d.finish_cache n r ns u
  · rw [cache] at le ⊢
    exact kept le
  · rw [cache]
    exact same

/-- What was kept stays kept, also if the run fails. -/
theorem Expands.cache_le (run : Expands b n path parent rs s o t) : s.cache.LE t.cache := by
  induction run with
  | nil => exact .refl _
  | halt opens => exact opens.cache_le
  | pass opens after ih => exact opens.cache_le.trans ih
  | sink opens below ih => exact opens.cache_le.trans ih
  | rise opens below after ihBelow ihAfter =>
      exact opens.cache_le.trans
        (ihBelow.trans ((opens.finish_le (opens.find?_below below) _).trans ihAfter))

/-- A module that is kept stays as it was kept if looking further into it fails. -/
theorem Expands.find?_of_error {e : Cache.Entry} {f : Failure}
    (run : Expands b n path parent [r] s o t) (failed : o = .error f)
    (kept : s.cache.find? r.id = some e) : t.cache.find? r.id = some e := by
  cases run with
  | halt opens =>
      obtain ⟨cache, -⟩ | ⟨-, miss, -⟩ := opens.of_done
      · rw [cache, kept]
      · exact nomatch miss.symm.trans kept
  | pass opens after =>
      cases after
      cases failed
  | sink opens below => rw [opens.find?_below below, kept]
  | rise opens below after =>
      cases after
      cases failed

end Build

end Attribution

import Attribution.Proofs.Graph.Growth
import Attribution.Proofs.Tree.Walk

/-!
What a build asks its collaborators for, and in which order. No build asks for the content of a
module twice, nor for one that is kept, in whatever state it starts and however it ends. A build
that starts with nothing and succeeds asks for its modules in the order of their first licensed
places in the tree it returns, keeps one entry for each question, and has each license text labelled
once.
-/

namespace Attribution

variable {σ : Type}

namespace Build

variable {b : Builder σ} {parent : PlacedManifest} {r : Requirement} {path : List ModuleId}
  {s t u : BuildState σ} {n : Nat} {rs : List Requirement} {o : Except Failure (List Node)}

/-- What a run asked for beyond what was asked for before: every module once, none of those that
were kept and none of its path. -/
structure Asks (path : List ModuleId) (s t : BuildState σ) (qs : List Requirement) : Prop where
  asked : t.asked = s.asked ++ qs
  nodup : (qs.map Requirement.id).Nodup
  new : ∀ q ∈ qs, s.cache.find? q.id = none ∧ q.id ∉ path

theorem Asks.nil (h : t.asked = s.asked) : Asks path s t [] :=
  ⟨by rw [h, List.append_nil], List.nodup_nil, fun _ h => absurd h List.not_mem_nil⟩

theorem Asks.singleton (h : t.asked = s.asked ++ [r]) (miss : s.cache.find? r.id = none)
    (new : r.id ∉ path) : Asks path s t [r] := by
  refine ⟨h, by simp, fun q hq => ?_⟩
  obtain rfl := List.mem_singleton.mp hq
  exact ⟨miss, new⟩

/-- Two stretches of a run ask for different modules, if the second one finds what the first one
asked for kept or on its path. -/
theorem Asks.append {qs ps : List Requirement} {path' : List ModuleId} (first : Asks path s t qs)
    (second : Asks path' t u ps) (larger : ∀ id ∈ path, id ∈ path') (le : s.cache.LE t.cache)
    (apart : ∀ q ∈ qs, t.cache.find? q.id ≠ none ∨ q.id ∈ path') :
    Asks path s u (qs ++ ps) := by
  refine ⟨by rw [second.asked, first.asked, List.append_assoc], ?_, ?_⟩
  · rw [List.map_append, List.nodup_append]
    refine ⟨first.nodup, second.nodup, fun i hi j hj same => ?_⟩
    obtain ⟨q, hq, rfl⟩ := List.mem_map.mp hi
    obtain ⟨p, hp, rfl⟩ := List.mem_map.mp hj
    obtain ⟨miss, new⟩ := second.new p hp
    cases apart q hq with
    | inl kept => exact kept (same ▸ miss)
    | inr onPath => exact new (same ▸ onPath)
  · refine List.forall_mem_append.mpr ⟨first.new, fun q hq => ?_⟩
    obtain ⟨miss, new⟩ := second.new q hq
    exact ⟨le.missed miss, fun h => new (larger _ h)⟩

theorem Opens.asks_of_done {o : Except Failure Node}
    (opens : Opens b parent r path s n (.done o) t) :
    ∃ qs, Asks path s t qs ∧ ∀ node, o = .ok node → ∀ q ∈ qs, t.cache.find? q.id ≠ none := by
  obtain ⟨-, asked⟩ | ⟨new, miss, asked, ⟨f, rfl, -⟩ | ⟨l, resolution, -, cache⟩⟩ := opens.of_done
  · exact ⟨[], .nil asked, fun _ _ _ h => absurd h List.not_mem_nil⟩
  · exact ⟨[r], .singleton asked miss new, fun _ h => nomatch h⟩
  · refine ⟨[r], .singleton asked miss new, fun _ _ q hq => ?_⟩
    obtain rfl := List.mem_singleton.mp hq
    rw [cache]
    exact Option.ne_none_iff_exists'.mpr ⟨_, Cache.find?_store_self _ _⟩

theorem Opens.asks_of_expand {d : Draft} (opens : Opens b parent r path s n (.expand d) t) :
    ∃ qs, Asks path s t qs ∧ ∀ q ∈ qs, q = r := by
  obtain ⟨-, new, ⟨miss, asked, -⟩ | ⟨e, -, asked, -⟩⟩ := opens.of_expand
  · exact ⟨[r], .singleton asked miss new, fun q hq => List.mem_singleton.mp hq⟩
  · exact ⟨[], .nil asked, fun _ h => absurd h List.not_mem_nil⟩

/-- No run asks for a module twice, for one that was kept, or for one on its path. If it succeeds,
all it asked for is kept. -/
theorem Expands.asks (run : Expands b n path parent rs s o t) :
    ∃ qs, Asks path s t qs ∧ ∀ ns, o = .ok ns → ∀ q ∈ qs, t.cache.find? q.id ≠ none := by
  induction run with
  | nil => exact ⟨[], .nil rfl, fun _ _ _ h => absurd h List.not_mem_nil⟩
  | halt opens =>
      obtain ⟨qs, asks, -⟩ := opens.asks_of_done
      exact ⟨qs, asks, fun _ h => nomatch h⟩
  | @pass n path parent r rest s t u node o opens after ih =>
      obtain ⟨qs, asks, kept⟩ := opens.asks_of_done
      obtain ⟨ps, more, keptAfter⟩ := ih
      refine ⟨qs ++ ps, asks.append more (fun _ h => h) opens.cache_le
        (fun q hq => .inl (kept node rfl q hq)), fun ns ok => ?_⟩
      cases o with
      | error f => cases ok
      | ok ms =>
          refine List.forall_mem_append.mpr ⟨fun q hq => ?_, keptAfter ms rfl⟩
          exact after.cache_le.kept (kept node rfl q hq)
  | @sink n path parent r rest s t u d f opens below ih =>
      obtain ⟨qs, asks, here⟩ := opens.asks_of_expand
      obtain ⟨ps, more, -⟩ := ih
      refine ⟨qs ++ ps, asks.append more (fun _ => List.mem_append_left _) opens.cache_le
        (fun q hq => ?_), fun _ h => nomatch h⟩
      exact .inr (by rw [here q hq]; exact List.mem_append_right _ List.mem_cons_self)
  | @rise n path parent r rest s t u v d ns o opens below after ihBelow ihAfter =>
      obtain ⟨qs, asks, here⟩ := opens.asks_of_expand
      obtain ⟨ps, more, keptBelow⟩ := ihBelow
      obtain ⟨ws, others, keptAfter⟩ := ihAfter
      have same := opens.find?_below below
      have grows := opens.finish_le same ns
      have first : Asks path s (d.finish (n + 1) r ns u) (qs ++ ps) := by
        obtain ⟨asked, nodup, new⟩ := asks.append more (fun _ => List.mem_append_left _)
          opens.cache_le fun q hq =>
            .inr (by rw [here q hq]; exact List.mem_append_right _ List.mem_cons_self)
        exact ⟨by rw [Draft.finish_asked, asked], nodup, new⟩
      have kept : ∀ q ∈ qs ++ ps, (d.finish (n + 1) r ns u).cache.find? q.id ≠ none := by
        refine List.forall_mem_append.mpr ⟨fun q hq => ?_, fun q hq => ?_⟩
        · obtain ⟨e, he, -⟩ := opens.find?_finish same ns
          rw [here q hq, he]
          exact Option.some_ne_none e
        · exact grows.kept (keptBelow ns rfl q hq)
      refine ⟨qs ++ ps ++ ws, first.append others (fun _ h => h)
        (opens.cache_le.trans (below.cache_le.trans grows)) (fun q hq => .inl (kept q hq)),
        fun ms ok => ?_⟩
      cases o with
      | error f => cases ok
      | ok ms' =>
          refine List.forall_mem_append.mpr ⟨fun q hq => ?_, keptAfter ms' rfl⟩
          exact after.cache_le.kept (kept q hq)

private theorem removeAll_congr {l m : List ModuleId} (same : ∀ a, a ∈ l ↔ a ∈ m)
    (k : List ModuleId) : k.removeAll l = k.removeAll m := by
  simp [List.removeAll, same]

private theorem eraseDups_idem (l : List ModuleId) : l.eraseDups.eraseDups = l.eraseDups := by
  match l with
  | [] => rfl
  | a :: l =>
      have shorter : (l.filter fun c => !c == a).length < l.length + 1 :=
        Nat.lt_succ_of_le (List.length_filter_le _ _)
      have others : ∀ c ∈ (l.filter fun c => !c == a).eraseDups, (!c == a) = true := fun c hc =>
        (List.mem_filter.mp (List.mem_eraseDups.mp hc)).2
      rw [List.eraseDups_cons, List.eraseDups_cons, List.filter_eq_self.mpr others, eraseDups_idem]
termination_by l.length

private theorem eraseDups_append_left (l m : List ModuleId) :
    (l.eraseDups ++ m).eraseDups = (l ++ m).eraseDups := by
  rw [List.eraseDups_append, List.eraseDups_append, eraseDups_idem,
    removeAll_congr fun a => List.mem_eraseDups]

private theorem eraseDups_append_seen {l m : List ModuleId} (seen : ∀ a ∈ m, a ∈ l)
    (k : List ModuleId) : (l ++ m ++ k).eraseDups = (l ++ k).eraseDups := by
  have none : m.removeAll l = [] := by
    simpa [List.removeAll] using seen
  have same : ∀ a, a ∈ l ++ m ↔ a ∈ l := fun a => by
    rw [List.mem_append, or_iff_left_of_imp (seen a)]
  rw [List.eraseDups_append, List.eraseDups_append, none, List.eraseDups_nil, List.append_nil,
    removeAll_congr same, ← List.eraseDups_append]

def seen (s : BuildState σ) : List ModuleId := s.asked.map Requirement.id

/-- The licensed modules of trees, in pre-order. -/
def licensedIds (ns : List Node) : List ModuleId := (Node.licensed ns).map Node.id

@[simp] theorem licensedIds_nil : licensedIds [] = [] := rfl

theorem licensedIds_cons (node : Node) (ns : List Node) :
    licensedIds (node :: ns) =
      (if node.license.isSome then [node.id] else []) ++ licensedIds node.dependencies ++
        licensedIds ns := by
  simp only [licensedIds, Node.licensed_cons, List.map_append]
  split <;> rfl

/-- While a run is on a path: no module was asked for twice, whatever is licensed in the kept trees
was asked for, and whatever was asked for is kept or on the path. -/
structure Orderly (path : List ModuleId) (s : BuildState σ) : Prop where
  once : (seen s).eraseDups = seen s
  kept : ∀ id e, s.cache.find? id = some e →
    id ∈ seen s ∧ e.node.license.isSome ∧ ∀ i ∈ licensedIds e.node.dependencies, i ∈ seen s
  pending : ∀ id ∈ seen s, id ∈ path ∨ s.cache.find? id ≠ none

theorem Orderly.fresh (world : σ) : Orderly path (BuildState.fresh world) :=
  ⟨rfl, nofun, nofun⟩

theorem Orderly.congr (orderly : Orderly path s) (cache : t.cache = s.cache)
    (asked : t.asked = s.asked) : Orderly path t := by
  obtain ⟨once, kept, pending⟩ := orderly
  have same : seen t = seen s := by rw [seen, asked, seen]
  exact ⟨by rw [same, once], by rw [same, cache]; exact kept, by rw [same, cache]; exact pending⟩

theorem Orderly.not_mem_seen (orderly : Orderly path s) (miss : s.cache.find? r.id = none)
    (new : r.id ∉ path) : r.id ∉ seen s := fun h =>
  (orderly.pending _ h).elim new fun kept => kept miss

/-- A module that is asked for goes on the path until it is kept. -/
theorem Orderly.ask (orderly : Orderly path s) (cache : t.cache = s.cache)
    (asked : t.asked = s.asked ++ [r]) (miss : s.cache.find? r.id = none) (new : r.id ∉ path) :
    Orderly (path ++ [r.id]) t ∧ seen t = seen s ++ [r.id] := by
  have seen_t : seen t = seen s ++ [r.id] := by simp [seen, asked]
  have absent := orderly.not_mem_seen miss new
  refine ⟨⟨?_, fun id e he => ?_, fun id h => ?_⟩, seen_t⟩
  · rw [seen_t, List.eraseDups_append, orderly.once]
    simp [List.removeAll, absent, List.eraseDups_cons]
  · obtain ⟨here, license, below⟩ := orderly.kept id e (cache ▸ he)
    rw [seen_t]
    exact ⟨List.mem_append_left _ here, license, fun i hi => List.mem_append_left _ (below i hi)⟩
  · rw [seen_t] at h
    cases List.mem_append.mp h with
    | inl earlier =>
        rw [cache]
        exact (orderly.pending id earlier).imp_left (List.mem_append_left _)
    | inr last => exact .inl (List.mem_append_right _ last)

/-- A module that was asked for is kept with its license and with dependencies whose licensed
modules were asked for. -/
theorem Orderly.keep {e : Cache.Entry} (orderly : Orderly path s)
    (cache : t.cache = s.cache.store e) (asked : t.asked = s.asked) (here : e.node.id ∈ seen s)
    (license : e.node.license.isSome) (below : ∀ i ∈ licensedIds e.node.dependencies, i ∈ seen s) :
    Orderly path t := by
  have seen_t : seen t = seen s := by rw [seen, asked, seen]
  refine ⟨by rw [seen_t, orderly.once], fun id f hf => ?_, fun id h => ?_⟩
  · rw [cache] at hf
    rw [seen_t]
    obtain ⟨found, rfl⟩ | old := Cache.find?_of_store hf
    · exact ⟨found ▸ here, license, below⟩
    · exact orderly.kept id f old
  · rw [seen_t] at h
    refine (orderly.pending id h).imp_right fun kept => ?_
    rw [cache, Cache.find?_store]
    split
    · exact Option.some_ne_none e
    · exact kept

theorem Orderly.leave {id : ModuleId} (orderly : Orderly (path ++ [id]) s)
    (kept : s.cache.find? id ≠ none) : Orderly path s := by
  refine ⟨orderly.once, orderly.kept, fun i hi => ?_⟩
  cases orderly.pending i hi with
  | inl onPath =>
      refine (List.mem_append.mp onPath).imp_right fun last => ?_
      rw [List.mem_singleton.mp last]
      exact kept
  | inr cached => exact .inr cached

theorem Orderly.enter {id : ModuleId} (orderly : Orderly path s) : Orderly (path ++ [id]) s :=
  ⟨orderly.once, orderly.kept, fun i hi => (orderly.pending i hi).imp_left (List.mem_append_left _)⟩

theorem Orderly.seen_append (orderly : Orderly path s) {ids : List ModuleId}
    (old : ∀ i ∈ ids, i ∈ seen s) : seen s = (seen s ++ ids).eraseDups := by
  have := eraseDups_append_seen old []
  rw [List.append_nil, List.append_nil, orderly.once] at this
  exact this.symm

theorem Opens.order_of_done {node : Node} (opens : Opens b parent r path s n (.done (.ok node)) t)
    (orderly : Orderly path s) :
    Orderly path t ∧ seen t = (seen s ++ licensedIds [node]).eraseDups := by
  cases opens with
  | bare | cycle _ _ => exact ⟨orderly.congr rfl rfl, orderly.seen_append nofun⟩
  | @shared n e new hit enough =>
      refine ⟨orderly.congr rfl rfl, orderly.seen_append ?_⟩
      obtain ⟨here, license, below⟩ := orderly.kept r.id e hit
      rw [licensedIds_cons, if_pos license]
      refine List.forall_mem_append.mpr ⟨List.forall_mem_append.mpr ⟨?_, below⟩, nofun⟩
      exact List.forall_mem_singleton.mpr here
  | search new miss settled =>
      obtain ⟨asked, ⟨f, ok, -⟩ | ⟨l, resolution, ok, cache⟩⟩ := settled.of_done
      · cases ok
      · cases ok
        obtain ⟨within, here⟩ := orderly.ask
          (t := (s.entered r).inquired b parent r) rfl rfl miss new
        have kept := within.keep cache asked (by rw [here]; simp [Node.id, Node.requirement]) rfl
          nofun
        have seen_t : seen t = seen s ++ [r.id] := by rw [← here, seen, asked, seen]
        refine ⟨kept.leave ?_, ?_⟩
        · rw [cache]
          exact Option.ne_none_iff_exists'.mpr ⟨_, Cache.find?_store_self _ _⟩
        · rw [licensedIds_cons]
          change seen t = (seen s ++ [r.id]).eraseDups
          rw [← seen_t, kept.once]

theorem Opens.order_of_expand {d : Draft} (opens : Opens b parent r path s n (.expand d) t)
    (orderly : Orderly path s) :
    Orderly (path ++ [r.id]) t ∧ d.license.isSome ∧ r.id ∈ seen t ∧
      ∀ ids, (seen t ++ ids).eraseDups = (seen s ++ ([r.id] ++ ids)).eraseDups := by
  obtain ⟨cache, new, ⟨miss, asked, -, license⟩ | ⟨e, hit, asked, -, -, license, -, -⟩⟩ :=
    opens.of_expand
  · obtain ⟨within, here⟩ := orderly.ask cache asked miss new
    exact ⟨within, license, by simp [here], fun ids => by rw [here, List.append_assoc]⟩
  · obtain ⟨here, licensed, -⟩ := orderly.kept r.id e hit
    have same : seen t = seen s := by rw [seen, asked, seen]
    refine ⟨orderly.enter.congr cache asked, license ▸ licensed, same ▸ here, fun ids => ?_⟩
    rw [same, ← List.append_assoc, eraseDups_append_seen fun i hi => ?_]
    rw [List.mem_singleton.mp hi]
    exact here

/-- A module is kept when all below it is, so it comes before what is below it. -/
theorem Opens.order_of_finish {d : Draft} {ns : List Node}
    (opens : Opens b parent r path s (n + 1) (.expand d) t)
    (below : Expands b n (path ++ [r.id]) d.manifest d.manifest.requirements t (.ok ns) u)
    (orderly : Orderly path s)
    (ih : Orderly (path ++ [r.id]) t →
      Orderly (path ++ [r.id]) u ∧ seen u = (seen t ++ licensedIds ns).eraseDups) :
    Orderly path (d.finish (n + 1) r ns u) ∧
      seen (d.finish (n + 1) r ns u) = (seen s ++ licensedIds [d.node r ns]).eraseDups := by
  obtain ⟨within, license, here, order⟩ := opens.order_of_expand orderly
  obtain ⟨within, order_u⟩ := ih within
  have mem (i) : i ∈ seen u ↔ i ∈ seen t ∨ i ∈ licensedIds ns := by
    rw [order_u, List.mem_eraseDups, List.mem_append]
  have same : seen (d.finish (n + 1) r ns u) = seen u := by
    rw [seen, Draft.finish_asked, seen]
  have finished : Orderly (path ++ [r.id]) (d.finish (n + 1) r ns u) := by
    obtain cache | ⟨cache, -, -⟩ := d.finish_cache (n + 1) r ns u
    · exact within.keep cache (d.finish_asked ..) ((mem r.id).mpr (.inl here)) license
        fun i hi => (mem i).mpr (.inr hi)
    · exact within.congr cache (d.finish_asked ..)
  refine ⟨finished.leave ?_, ?_⟩
  · obtain ⟨e, kept, -⟩ := opens.find?_finish (opens.find?_below below) ns
    rw [kept]
    exact Option.some_ne_none e
  · have licensed : licensedIds [d.node r ns] = [r.id] ++ licensedIds ns := by
      simp [licensedIds_cons, Draft.node, license, Node.id, Node.requirement, Requirement.id]
    rw [same, order_u, order, licensed]

/-- A run that succeeds asks for the modules that are licensed in its trees, in the order of their
first places there, as far as they were not asked for before. -/
theorem Expands.order (run : Expands b n path parent rs s o t) {ns : List Node} (ok : o = .ok ns)
    (orderly : Orderly path s) :
    Orderly path t ∧ seen t = (seen s ++ licensedIds ns).eraseDups := by
  induction run generalizing ns with
  | nil =>
      cases ok
      exact ⟨orderly, orderly.seen_append nofun⟩
  | halt _ | sink _ _ _ => cases ok
  | @pass n path parent r rest s t u node o opens after ih =>
      cases o with
      | error f => cases ok
      | ok ms =>
          cases ok
          obtain ⟨orderly, first⟩ := opens.order_of_done orderly
          obtain ⟨orderly, rest⟩ := ih rfl orderly
          refine ⟨orderly, ?_⟩
          rw [rest, first, eraseDups_append_left, List.append_assoc]
          simp only [licensedIds_cons, licensedIds_nil, List.append_nil, List.append_assoc]
  | @rise n path parent r rest s t u v d ms o opens below after ihBelow ihAfter =>
      cases o with
      | error f => cases ok
      | ok rest =>
          cases ok
          obtain ⟨orderly, first⟩ := opens.order_of_finish below orderly (ihBelow rfl)
          obtain ⟨orderly, last⟩ := ihAfter rfl orderly
          refine ⟨orderly, ?_⟩
          rw [last, first, eraseDups_append_left, List.append_assoc]
          simp only [licensedIds_cons, licensedIds_nil, List.append_nil, List.append_assoc]

end Build

end Attribution

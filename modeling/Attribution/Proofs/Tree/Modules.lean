import Attribution.Proofs.Tree.Walk
import Mathlib.Data.List.Induction
import Mathlib.Data.List.Nodup

/-!
The occurrences that stand for the modules of a tree. Each module of the walk is there once, in the
order of first occurrences, and is given by its first licensed occurrence if it has one. So it is shown
with a license if any occurrence has one, and then it has a section of its own in a report.
-/

namespace Attribution

namespace Tree

/-- Of two occurrences of a module the earlier one, unless only the later one is licensed. -/
def prefer (m n : Node) : Node := if m.license.isNone && n.license.isSome then n else m

theorem prefer_id {m n : Node} (same : m.id = n.id) : (prefer m n).id = n.id := by
  unfold prefer
  split
  · rfl
  · exact same

theorem prefer_licensed {m : Node} (n : Node) (licensed : m.license.isSome) : prefer m n = m := by
  simp [prefer, Option.isSome_iff_ne_none.mp licensed]

theorem prefer_bare {m : Node} (n : Node) (bare : m.license = none) :
    prefer m n = if n.license.isSome then n else m := by
  simp [prefer, bare]

theorem keepBest_cons (n m : Node) (rest : List Node) :
    keepBest n (m :: rest) =
      if m.id = n.id then prefer m n :: rest else m :: keepBest n rest := rfl

theorem keepBest_ids (n : Node) (kept : List Node) :
    (keepBest n kept).map Node.id =
      if n.id ∈ kept.map Node.id then kept.map Node.id else kept.map Node.id ++ [n.id] := by
  induction kept with
  | nil => rfl
  | cons m rest ih =>
      rw [keepBest_cons]
      by_cases same : m.id = n.id
      · simp [same, prefer_id same]
      · rw [if_neg same, List.map_cons, ih, List.map_cons]
        simp only [List.mem_cons, Ne.symm same, false_or]
        split <;> rfl

/-- A further occurrence changes what is kept for its own module only. -/
theorem find?_keepBest (n : Node) (kept : List Node) (id : ModuleId) :
    (keepBest n kept).find? (·.id = id) =
      if n.id = id then some ((kept.find? (·.id = id)).elim n (prefer · n))
      else kept.find? (·.id = id) := by
  induction kept with
  | nil => by_cases this : n.id = id <;> simp [keepBest, this]
  | cons m rest ih =>
      rw [keepBest_cons]
      by_cases same : m.id = n.id
      · by_cases this : n.id = id <;> simp [same, this, prefer_id same]
      · rw [if_neg same, List.find?_cons, List.find?_cons, ih]
        by_cases this : m.id = id
        · have other : n.id ≠ id := fun h => same (this.trans h.symm)
          simp [this, other]
        · simp only [this, decide_false]

def best (ns : List Node) : List Node := ns.foldl (fun kept n => keepBest n kept) []

theorem best_concat (ns : List Node) (n : Node) : best (ns ++ [n]) = keepBest n (best ns) := by
  rw [best, List.foldl_append]
  rfl

theorem modules_eq (t : Tree) : t.modules = best (t.walk.map (·.2)) := by
  rw [modules, best, List.foldl_map]

/-- The occurrence that stands for a module among several nodes: the first licensed one, or else the
first. -/
def standing (ns : List Node) (id : ModuleId) : Option Node :=
  (ns.find? fun n => n.id = id && n.license.isSome).or (ns.find? (·.id = id))

/-- A further occurrence stands for its module if it is the first one, or the first licensed one. -/
theorem standing_concat (ns : List Node) (n : Node) (id : ModuleId) :
    standing (ns ++ [n]) id =
      if n.id = id then some ((standing ns id).elim n (prefer · n)) else standing ns id := by
  by_cases this : n.id = id
  · cases first : ns.find? fun m => m.id = id && m.license.isSome with
    | some m =>
        have licensed : m.license.isSome := by
          have both := List.find?_some first
          simp only [Bool.and_eq_true] at both
          exact both.2
        simp [standing, first, this, prefer_licensed n licensed]
    | none =>
        cases met : ns.find? (·.id = id) with
        | none => cases own : n.license <;> simp [standing, first, met, this, own]
        | some m =>
            have same := List.find?_some met
            have unlicensed := List.find?_eq_none.mp first m (List.mem_of_find?_eq_some met)
            have bare : m.license = none := by simpa [of_decide_eq_true same] using unlicensed
            cases own : n.license <;> simp [standing, first, met, this, own, prefer_bare n bare]
  · simp [standing, this]

theorem find?_best (ns : List Node) (id : ModuleId) :
    (best ns).find? (·.id = id) = standing ns id := by
  induction ns using List.reverseRecOn with
  | nil => rfl
  | append_singleton ns n ih => rw [best_concat, find?_keepBest, ih, standing_concat]

theorem best_ids (ns : List Node) : (best ns).map Node.id = (ns.map Node.id).eraseDups := by
  induction ns using List.reverseRecOn with
  | nil => rfl
  | append_singleton ns n ih =>
      rw [best_concat, keepBest_ids, ih, List.map_append, List.eraseDups_append]
      generalize ns.map Node.id = ids
      by_cases old : n.id ∈ ids <;>
        simp [List.mem_eraseDups, List.removeAll, List.eraseDups_cons, old]

/-- What is kept stands in the order of first occurrences. -/
theorem pairwise_best (ns : List Node) : ((best ns).map Node.id).Pairwise fun a b =>
    (ns.map Node.id).idxOf a < (ns.map Node.id).idxOf b := by
  induction ns using List.reverseRecOn with
  | nil => exact List.Pairwise.nil
  | append_singleton ns n ih =>
      have met {id : ModuleId} (mem : id ∈ (best ns).map Node.id) : id ∈ ns.map Node.id := by
        rwa [best_ids, List.mem_eraseDups] at mem
      have before : ((best ns).map Node.id).Pairwise fun a b =>
          ((ns ++ [n]).map Node.id).idxOf a < ((ns ++ [n]).map Node.id).idxOf b := by
        refine ih.imp_of_mem fun {a b} here there lt => ?_
        rwa [List.map_append, List.idxOf_append_of_mem (met here), List.idxOf_append_of_mem (met there)]
      rw [best_concat, keepBest_ids]
      split
      next => exact before
      next new =>
        have fresh : n.id ∉ ns.map Node.id := by rwa [best_ids, List.mem_eraseDups] at new
        refine List.pairwise_append.mpr ⟨before, List.pairwise_singleton _ _, fun id mem _ last => ?_⟩
        rw [List.mem_singleton.mp last, List.map_append, List.idxOf_append_of_mem (met mem),
          List.idxOf_append_of_notMem fresh]
        have inside := List.idxOf_lt_length_of_mem (met mem)
        omega

/-- The modules stand in the order in which the walk comes to them first. -/
theorem modules_ids (t : Tree) : t.modules.map Node.id = (t.walk.map (·.2.id)).eraseDups := by
  rw [modules_eq, best_ids, List.map_map]
  rfl

theorem modules_nodup (t : Tree) : (t.modules.map Node.id).Nodup := by
  rw [modules_eq]
  refine (pairwise_best _).imp fun lt same => ?_
  rw [same] at lt
  exact Nat.lt_irrefl _ lt

theorem mem_of_standing {m : Node} {ns : List Node} {id : ModuleId} (h : standing ns id = some m) :
    m ∈ ns := by
  rcases Option.or_eq_some_iff.mp h with licensed | ⟨-, first⟩
  · exact List.mem_of_find?_eq_some licensed
  · exact List.mem_of_find?_eq_some first

theorem standing_of_mem_modules {t : Tree} {m : Node} (h : m ∈ t.modules) :
    standing (Node.nodes t.root.dependencies) m.id = some m := by
  rw [← walk_nodes, ← find?_best, ← modules_eq]
  cases kept : t.modules.find? (·.id = m.id) with
  | none => exact absurd (decide_eq_true rfl) (List.find?_eq_none.mp kept m h)
  | some n =>
      have same := List.find?_some kept
      have once := List.inj_on_of_nodup_map t.modules_nodup (List.mem_of_find?_eq_some kept) h
        (of_decide_eq_true same)
      rw [once]

/-- The occurrence that stands for a module is one of the walk. -/
theorem mem_nodes_of_mem_modules {t : Tree} {m : Node} (h : m ∈ t.modules) :
    m ∈ Node.nodes t.root.dependencies :=
  mem_of_standing (standing_of_mem_modules h)

/-- The modules are those of the walk, each once, in the order in which the walk comes to them first,
licensed there or not. Each is given by its first licensed occurrence in the walk, or by its first one
where none is licensed. -/
theorem modules_standing (t : Tree) :
    let met := t.walk.map (·.2)
    let ids := t.modules.map Node.id
    (∀ id, id ∈ ids ↔ ∃ n ∈ met, n.id = id) ∧ ids.Nodup ∧
    ids.Pairwise (fun a b => (met.map Node.id).idxOf a < (met.map Node.id).idxOf b) ∧
    ∀ m ∈ t.modules, standing met m.id = some m := by
  intro met ids
  refine ⟨fun id => ?_, t.modules_nodup, ?_, fun m mem => ?_⟩
  · rw [show ids = (best met).map Node.id from congrArg _ t.modules_eq, best_ids,
      List.mem_eraseDups, List.mem_map]
  · rw [show ids = (best met).map Node.id from congrArg _ t.modules_eq]
    exact pairwise_best met
  · rw [show met = Node.nodes t.root.dependencies from t.walk_nodes]
    exact standing_of_mem_modules mem

/-- A module is shown with a license if any occurrence has one. -/
theorem licensed_modules (t : Tree) (id : ModuleId) :
    (∃ m ∈ t.modules, m.license.isSome ∧ m.id = id) ↔
      ∃ n ∈ Node.nodes t.root.dependencies, n.license.isSome ∧ n.id = id := by
  constructor
  · rintro ⟨m, mem, licensed, same⟩
    exact ⟨m, mem_nodes_of_mem_modules mem, licensed, same⟩
  · rintro ⟨n, mem, licensed, rfl⟩
    have found : ((Node.nodes t.root.dependencies).find? fun m =>
        m.id = n.id && m.license.isSome).isSome :=
      List.find?_isSome.mpr ⟨n, mem, by simp [licensed]⟩
    obtain ⟨m, first⟩ := Option.isSome_iff_exists.mp found
    have kept : t.modules.find? (·.id = n.id) = some m := by
      rw [modules_eq, find?_best, walk_nodes, standing, first, Option.some_or]
    have both := List.find?_some first
    simp only [Bool.and_eq_true, decide_eq_true_eq] at both
    exact ⟨m, List.mem_of_find?_eq_some kept, both.2, both.1⟩

/-- Where all licensed occurrences of a module have one license, the report shows it. -/
theorem section_mem {t : Tree} {n : Node} (licensed : n.license.isSome)
    (here : n ∈ Node.nodes t.root.dependencies)
    (same : ∀ m ∈ Node.nodes t.root.dependencies, m.license.isSome → m.id = n.id →
      m.license = n.license) :
    ∃ part ∈ Report.sections t, Report.section? n = some part := by
  obtain ⟨m, shown, license, id⟩ := (t.licensed_modules n.id).mpr ⟨n, here, licensed, rfl⟩
  have license := same m (mem_nodes_of_mem_modules shown) license id
  have alike : Report.section? m = Report.section? n := by
    rw [Report.section?, Report.section?, license, id]
  obtain ⟨part, hpart⟩ : ∃ part, Report.section? n = some part := by
    rw [← Option.isSome_iff_exists, Report.section?, Option.isSome_map, licensed]
  exact ⟨part, List.mem_filterMap.mpr ⟨m, shown, alike.trans hpart⟩, hpart⟩

/-- The modules that a report gives the license of, in the order of their first occurrences. -/
def attributed (t : Tree) : List ModuleId :=
  (t.modules.filter (·.license.isSome)).map Node.id

theorem attributed_nodup (t : Tree) : t.attributed.Nodup :=
  t.modules_nodup.sublist (List.filter_sublist.map Node.id)

/-- A module is attributed if it is licensed anywhere in the walk. -/
theorem mem_attributed (t : Tree) (id : ModuleId) :
    id ∈ t.attributed ↔ id ∈ (Node.licensed t.root.dependencies).map Node.id := by
  simp only [attributed, Node.licensed_eq, List.mem_map, List.mem_filter, and_assoc]
  exact t.licensed_modules id

/-- A report has a section for each attributed module, under its identity. -/
theorem sections_id (t : Tree) :
    (Report.sections t).map (·.id) = t.attributed.map String.toList := by
  rw [Report.sections, attributed]
  induction t.modules with
  | nil => rfl
  | cons n ns ih =>
      cases h : n.license <;> simp [Report.section?, h, ih]

/-- What a report asks to review are the modules that are shown under the label of the unknown. -/
theorem review_id (t : Tree) (header : String) (date : Report.Date) :
    (Report.document header date t).review.map (·.id) =
      ((t.modules.filter fun n => n.licenseName = some License.unknownName).map Node.id).map
        String.toList := by
  rw [Report.document, Report.sections]
  induction t.modules with
  | nil => rfl
  | cons n ns ih =>
      cases h : n.license with
      | none => simpa [Report.section?, Node.licenseName, h] using ih
      | some l =>
          by_cases unknown : l.name = License.unknownName
          · simpa [Report.section?, Node.licenseName, h, unknown] using ih
          · have other : l.name.toList ≠ License.unknownName.toList := mt String.toList_inj.mp unknown
            simpa [Report.section?, Node.licenseName, h, unknown, other] using ih

end Tree

end Attribution

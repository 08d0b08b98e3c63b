import Attribution.Proofs.Graph.Traversal

/-!
Runs are determined by where they start: a requirement is opened in one way only, and a list of
requirements comes to one outcome and one state. So what is shown of some run from a state holds of
the traversal from there.
-/

namespace Attribution

variable {σ : Type}

namespace Build

variable {b : Builder σ} {parent : PlacedManifest} {r : Requirement} {path : List ModuleId}
  {s t t' : BuildState σ} {n : Nat} {rs : List Requirement}

theorem Settles.unique {verdict : Verdict} {opening opening' : Opening}
    (settled : Settles b r n s verdict opening t) (settled' : Settles b r n s verdict opening' t') :
    opening = opening' ∧ t = t' := by
  cases settled with
  | failed | skipped =>
      cases settled'
      exact ⟨rfl, rfl⟩
  | unlicensed run =>
      cases settled' with
      | unlicensed run' =>
          cases run.symm.trans run'
          exact ⟨rfl, rfl⟩
      | leaf run' _ | found run' _ => exact nomatch run.symm.trans run'
  | leaf run alone =>
      cases settled' with
      | unlicensed run' => exact nomatch run.symm.trans run'
      | leaf run' _ =>
          cases run.symm.trans run'
          exact ⟨rfl, rfl⟩
      | found _ known => exact nomatch alone.symm.trans known
  | found run known =>
      cases settled' with
      | unlicensed run' => exact nomatch run.symm.trans run'
      | leaf _ alone => exact nomatch alone.symm.trans known
      | found run' known' =>
          cases run.symm.trans run'
          cases known.symm.trans known'
          exact ⟨rfl, rfl⟩

theorem Opens.unique {opening opening' : Opening} (opens : Opens b parent r path s n opening t)
    (opens' : Opens b parent r path s n opening' t') : opening = opening' ∧ t = t' := by
  cases opens with
  | bare =>
      cases opens'
      exact ⟨rfl, rfl⟩
  | cycle again mode =>
      cases opens' with
      | cycle => exact ⟨rfl, rfl⟩
      | cycleError _ strict => exact nomatch mode.symm.trans strict
      | shared new | deepen new | search new => exact absurd again new
  | cycleError again strict =>
      cases opens' with
      | cycle _ mode => exact nomatch mode.symm.trans strict
      | cycleError => exact ⟨rfl, rfl⟩
      | shared new | deepen new | search new => exact absurd again new
  | shared new hit enough =>
      cases opens' with
      | cycle again | cycleError again => exact absurd again new
      | shared _ hit' =>
          cases hit.symm.trans hit'
          exact ⟨rfl, rfl⟩
      | deepen _ hit' known few =>
          cases hit.symm.trans hit'
          cases enough with
          | inl unread => exact nomatch unread.symm.trans known
          | inr far => exact absurd far (Int.not_le.mpr few)
      | search _ miss => exact nomatch miss.symm.trans hit
  | deepen new hit known few =>
      cases opens' with
      | cycle again | cycleError again => exact absurd again new
      | shared _ hit' enough =>
          cases hit.symm.trans hit'
          cases enough with
          | inl unread => exact nomatch unread.symm.trans known
          | inr far => exact absurd far (Int.not_le.mpr few)
      | deepen _ hit' known' =>
          cases hit.symm.trans hit'
          cases known.symm.trans known'
          exact ⟨rfl, rfl⟩
      | search _ miss => exact nomatch miss.symm.trans hit
  | search new miss settled =>
      cases opens' with
      | cycle again | cycleError again => exact absurd again new
      | shared _ hit | deepen _ hit => exact nomatch miss.symm.trans hit
      | search _ _ settled' => exact settled.unique settled'

/-- A run from a state comes to one outcome and one state. -/
theorem Expands.unique {o o' : Except Failure (List Node)} (run : Expands b n path parent rs s o t)
    (run' : Expands b n path parent rs s o' t') : o = o' ∧ t = t' := by
  induction run generalizing o' t' with
  | nil =>
      cases run'
      exact ⟨rfl, rfl⟩
  | halt opens =>
      cases run' with
      | halt opens' =>
          obtain ⟨same, rfl⟩ := opens.unique opens'
          cases same
          exact ⟨rfl, rfl⟩
      | pass opens' | sink opens' | rise opens' => exact nomatch (opens.unique opens').1
  | pass opens after ih =>
      cases run' with
      | halt opens' | sink opens' | rise opens' => exact nomatch (opens.unique opens').1
      | pass opens' after' =>
          obtain ⟨same, rfl⟩ := opens.unique opens'
          cases same
          obtain ⟨rfl, rfl⟩ := ih after'
          exact ⟨rfl, rfl⟩
  | sink opens below ih =>
      cases run' with
      | halt opens' | pass opens' => exact nomatch (opens.unique opens').1
      | sink opens' below' =>
          obtain ⟨same, rfl⟩ := opens.unique opens'
          cases same
          exact ih below'
      | rise opens' below' =>
          obtain ⟨same, rfl⟩ := opens.unique opens'
          cases same
          exact nomatch (ih below').1
  | rise opens below after ihBelow ihAfter =>
      cases run' with
      | halt opens' | pass opens' => exact nomatch (opens.unique opens').1
      | sink opens' below' =>
          obtain ⟨same, rfl⟩ := opens.unique opens'
          cases same
          exact nomatch (ihBelow below').1
      | rise opens' below' after' =>
          obtain ⟨same, rfl⟩ := opens.unique opens'
          cases same
          obtain ⟨same, rfl⟩ := ihBelow below'
          cases same
          obtain ⟨rfl, rfl⟩ := ihAfter after'
          exact ⟨rfl, rfl⟩

end Build

/-- A build comes to what any run over the requirements of its root comes to. -/
theorem Builder.build_of_expands {b : Builder σ} {root : PlacedManifest} {depth : Nat}
    {s t : BuildState σ} {o : Except Failure (List Node)}
    (run : Build.Expands b depth [] root root.requirements
      (s.told .debug "Started building the dependency graph") o t) :
    b.build root depth s = (o.map (Tree.over root), closed o t) := by
  obtain ⟨o', t', run', result⟩ := b.expands_build root depth s
  obtain ⟨rfl, rfl⟩ := run.unique run'
  exact result

end Attribution

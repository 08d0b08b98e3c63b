import Attribution.Proofs.Graph.Cycle
import Attribution.Proofs.Graph.Determinism
import Attribution.Proofs.Graph.Shape

/-!
What the mode of a builder changes. A strict and a lenient run go through the same steps until
something has to be degraded; there the strict one fails, and the lenient one counts it and goes on.
So a run that degrades nothing, and does not fail with what a lenient build puts up with, is a run in
either mode.
-/

namespace Attribution

variable {σ : Type}

/-- What a lenient build puts up with: a module that cannot be fetched, a missing license, a cycle. -/
def Problem.Kind.isExcusable : Problem.Kind → Bool
  | licenseNotFound _ | cycle _ => true
  | kind => kind.isFetch

def Failure.Excusable : Failure → Prop
  | problem p => p.kind.isExcusable
  | fault _ => False

@[simp] theorem Failure.excusable_forModule (f : Failure) (v : ModuleVersion) :
    (f.forModule v).Excusable ↔ f.Excusable := by
  cases f with
  | problem p => simp only [forModule, Excusable, Problem.withModule_kind]
  | fault f => rfl

/-- The builder with the same collaborators in the given mode. -/
def Builder.inMode (b : Builder σ) (lenient : Bool) : Builder σ := { b with lenient }

/-- The resolver reports no cycle of its own, and the classifier nothing that a lenient build puts up
with. -/
structure Builder.Civil (b : Builder σ) : Prop where
  resolver : ∀ parent r scene f, ((b.resolver parent r).run.run scene).1 = .error f → ¬ f.Cyclic
  classifier : ∀ data scene f, ((b.classifier data).run.run scene).1 = .error f → ¬ f.Excusable

/-- What is found comes to the same in both modes, unless a strict build fails over it and a lenient one
goes on with a placeholder. -/
theorem Verdict.modes (v : ModuleVersion) (found : Except Failure Content) :
    Verdict.of true v found = Verdict.of false v found ∨
      (∃ f, Verdict.of false v found = .fail f ∧ f.Excusable) ∧
        ((∃ p, Verdict.of true v found = .skip p) ∨
          ∃ manifest, Verdict.of true v found = .settle ⟨manifest, none⟩) := by
  rcases found with (p | f) | content
  · rcases p with ⟨kind, message, module, recorded⟩
    cases kind with
    | fetch | download | localReplacement =>
        refine .inr ⟨⟨_, rfl, ?_⟩, .inl ⟨_, rfl⟩⟩
        simp [Failure.Excusable, Problem.Kind.isExcusable, Problem.Kind.isFetch]
    | licenseNotFound manifest =>
        refine .inr ⟨⟨_, rfl, ?_⟩, .inr ⟨_, rfl⟩⟩
        simp [Failure.Excusable, Problem.Kind.isExcusable]
    | general | manifestNotFound | manifestMalformed | classification | cycle => exact .inl rfl
  · exact .inl rfl
  · exact .inl rfl

theorem Verdict.not_excusable_of_fail {v : ModuleVersion} {found : Except Failure Content}
    {f : Failure} (fails : Verdict.of true v found = .fail f)
    (plain : ∀ g, found = .error g → ¬ g.Cyclic) : ¬ f.Excusable := by
  obtain ⟨g, rfl, rfl⟩ := Verdict.of_fail fails
  rw [Failure.excusable_forModule]
  rcases g with p | g
  · rcases p with ⟨kind, message, module, recorded⟩
    cases kind with
    | cycle ids => exact absurd ⟨_, ids, rfl, rfl⟩ (plain _ rfl)
    | fetch | download | localReplacement | licenseNotFound => cases fails
    | general | manifestNotFound | manifestMalformed | classification => nofun
  · exact id

/-- The count of what was degraded never falls, and rises in a lenient build only. -/
structure BuildState.Degrades (b : Builder σ) (s t : BuildState σ) : Prop where
  le : s.stats.degraded ≤ t.stats.degraded
  strict : b.lenient = false → t.stats.degraded = s.stats.degraded

section
variable {b : Builder σ} {s t u : BuildState σ}

theorem BuildState.Degrades.of_eq (same : t.stats.degraded = s.stats.degraded) :
    s.Degrades b t := ⟨Nat.le_of_eq same.symm, fun _ => same⟩

theorem BuildState.Degrades.of_lenient (mode : b.lenient = true)
    (more : t.stats.degraded = s.stats.degraded + 1) : s.Degrades b t :=
  ⟨by omega, fun strict => nomatch mode.symm.trans strict⟩

theorem BuildState.Degrades.trans (first : s.Degrades b t) (second : t.Degrades b u) :
    s.Degrades b u :=
  ⟨Nat.le_trans first.le second.le,
    fun strict => (second.strict strict).trans (first.strict strict)⟩

end

namespace Build

variable {b : Builder σ} {parent : PlacedManifest} {r : Requirement} {path : List ModuleId}
  {s t u : BuildState σ} {n : Nat} {rs : List Requirement} {o : Except Failure (List Node)}

theorem licenseFor_degrades {data : Option Bytes} {o : Except Failure License}
    (run : (licenseFor b r data).run.run s = (o, t)) : s.Degrades b t := by
  cases licenses_of_run run with
  | labelled | refused | missing => exact .of_eq rfl
  | placeholder blank mode => exact .of_lenient mode rfl

theorem Settles.degrades {v : ModuleVersion} {found : Except Failure Content} {opening : Opening}
    (settled : Settles b r n s (.of b.lenient v found) opening t) : s.Degrades b t := by
  generalize made : Verdict.of b.lenient v found = verdict at settled
  cases settled with
  | failed => exact .of_eq rfl
  | skipped => exact .of_lenient (Verdict.lenient_of_skip made) rfl
  | unlicensed run => exact licenseFor_degrades run
  | leaf run | found run => exact (licenseFor_degrades run).trans (.of_eq rfl)

theorem Opens.degrades {opening : Opening} (opens : Opens b parent r path s n opening t) :
    s.Degrades b t := by
  cases opens with
  | bare | cycleError | shared | deepen => exact .of_eq rfl
  | cycle again mode => exact .of_lenient mode rfl
  | search new miss settled =>
      have first : s.Degrades b ((s.entered r).inquired b parent r) := .of_eq rfl
      exact first.trans settled.degrades

theorem finish_degrades (d : Draft) (ns : List Node) : u.Degrades b (d.finish n r ns u) := by
  unfold Draft.finish
  split
  · exact .of_eq rfl
  · split <;> exact .of_eq rfl

theorem Expands.degrades (run : Expands b n path parent rs s o t) : s.Degrades b t := by
  induction run with
  | nil => exact .of_eq rfl
  | halt opens => exact opens.degrades
  | pass opens after ih => exact opens.degrades.trans ih
  | sink opens below ih => exact opens.degrades.trans ih
  | rise opens below after ihBelow ihAfter =>
      exact opens.degrades.trans (ihBelow.trans ((finish_degrades _ _).trans ihAfter))

section
variable (mode : Bool)

theorem Licenses.inMode {data : Option Bytes} {o : Except Failure License}
    (licenses : Licenses b r data s o t) (steady : t.stats.degraded = s.stats.degraded)
    (plain : ∀ f, o = .error f → ¬ f.Excusable) : Licenses (b.inMode mode) r data s o t := by
  cases licenses with
  | labelled given label => exact .labelled given label
  | refused given label => exact .refused given label
  | placeholder => exact absurd steady (Nat.succ_ne_self _)
  | missing => exact absurd rfl (plain _ rfl)

theorem Settles.degraded_of_blank {manifest : Option PlacedManifest} {opening : Opening}
    (lenient : b.lenient = true) (settled : Settles b r n s (.settle ⟨manifest, none⟩) opening t) :
    t.stats.degraded = s.stats.degraded + 1 := by
  have blank {o : Except Failure License} {u : BuildState σ}
      (run : (licenseFor b r none).run.run s = (o, u)) :
      u.stats.degraded = s.stats.degraded + 1 := by
    cases licenses_of_run run with
    | labelled given | refused given => cases given
    | placeholder => rfl
    | missing _ strict => exact nomatch lenient.symm.trans strict
  cases settled with
  | unlicensed run | leaf run | found run => exact (blank run :)

/-- Where nothing is degraded and nothing excusable fails, the modes agree on what was found. -/
theorem Settles.verdict_eq {v : ModuleVersion} {found : Except Failure Content} {opening : Opening}
    (settled : Settles b r n s (.of b.lenient v found) opening t)
    (steady : t.stats.degraded = s.stats.degraded)
    (plain : ∀ f, opening = .done (.error f) → ¬ f.Excusable) :
    Verdict.of b.lenient v found = Verdict.of mode v found := by
  obtain same | ⟨⟨f, fails, excusable⟩, goesOn⟩ := Verdict.modes v found
  · cases b.lenient <;> cases mode <;> simp only [same]
  · cases lenient : b.lenient with
    | false =>
        rw [lenient, fails] at settled
        cases settled
        exact absurd excusable (plain f rfl)
    | true =>
        rw [lenient] at settled
        obtain ⟨p, skips⟩ | ⟨manifest, settles⟩ := goesOn
        · rw [skips] at settled
          cases settled
          exact absurd steady (Nat.succ_ne_self _)
        · rw [settles] at settled
          have more := settled.degraded_of_blank lenient
          omega

theorem Settles.inMode {verdict : Verdict} {opening : Opening}
    (settled : Settles b r n s verdict opening t) (steady : t.stats.degraded = s.stats.degraded)
    (plain : ∀ f, opening = .done (.error f) → ¬ f.Excusable) :
    Settles (b.inMode mode) r n s verdict opening t := by
  cases settled with
  | failed => exact .failed
  | skipped => exact .skipped
  | unlicensed run =>
      refine .unlicensed ((licenses_of_run run).inMode mode steady fun f failed => plain f ?_).run
      rw [Except.error.inj failed]
  | leaf run alone => exact .leaf ((licenses_of_run run).inMode mode steady nofun).run alone
  | found run known => exact .found ((licenses_of_run run).inMode mode steady nofun).run known

theorem Opens.inMode {opening : Opening} (opens : Opens b parent r path s n opening t)
    (steady : t.stats.degraded = s.stats.degraded)
    (plain : ∀ f, opening = .done (.error f) → ¬ f.Excusable) :
    Opens (b.inMode mode) parent r path s n opening t := by
  cases opens with
  | bare => exact .bare
  | cycle => exact absurd steady (Nat.succ_ne_self _)
  | cycleError => exact absurd rfl (plain _ rfl)
  | shared new hit enough => exact .shared new hit enough
  | deepen new hit known few => exact .deepen new hit known few
  | search new miss settled =>
      refine .search new miss ?_
      rw [Builder.verdict, settled.verdict_eq mode steady plain] at settled
      exact settled.inMode mode steady plain

/-- A run that degrades nothing, and does not fail with what is excusable, is one in either mode. -/
theorem Expands.inMode (run : Expands b n path parent rs s o t)
    (steady : t.stats.degraded = s.stats.degraded) (plain : ∀ f, o = .error f → ¬ f.Excusable) :
    Expands (b.inMode mode) n path parent rs s o t := by
  induction run with
  | nil => exact .nil
  | halt opens =>
      refine .halt (opens.inMode mode steady fun f failed => plain f ?_)
      cases failed
      rfl
  | @pass n path parent r rest s t u node o opens after ih =>
      have first := opens.degrades.le
      have second := after.degrades.le
      refine .pass (opens.inMode mode (by omega) nofun) (ih (by omega) fun f failed => plain f ?_)
      rw [failed]
      rfl
  | sink opens below ih =>
      have first := opens.degrades.le
      have second := below.degrades.le
      exact .sink (opens.inMode mode (by omega) nofun) (ih (by omega) plain)
  | @rise n path parent r rest s t u v d ns o opens below after ihBelow ihAfter =>
      have first := opens.degrades.le
      have second := below.degrades.le
      have third := (finish_degrades (b := b) (n := n + 1) (r := r) (u := u) d ns).le
      have fourth := after.degrades.le
      refine .rise (opens.inMode mode (by omega) nofun) (ihBelow (by omega) nofun)
        (ihAfter (by omega) fun f failed => plain f ?_)
      rw [failed]
      rfl

end

/-- A lenient run fails with nothing that it puts up with, if its collaborators report none of it
themselves. -/
theorem Expands.not_excusable (lenient : b.lenient = true) (civil : b.Civil) {f : Failure}
    (run : Expands b n path parent rs s o t) (failed : o = .error f) : ¬ f.Excusable := by
  induction run with
  | nil => cases failed
  | @halt n path parent r rest s t g opens =>
      cases failed
      cases opens with
      | cycleError _ strict => exact nomatch lenient.symm.trans strict
      | search new miss settled =>
          rw [Builder.verdict, lenient] at settled
          generalize made : Verdict.of true r.version _ = verdict at settled
          cases settled with
          | failed => exact Verdict.not_excusable_of_fail made (civil.resolver parent r _)
          | unlicensed run =>
              cases licenses_of_run run with
              | refused given label =>
                  rw [Failure.excusable_forModule]
                  exact civil.classifier _ _ _ label
              | missing _ strict => exact nomatch lenient.symm.trans strict
  | @pass n path parent r rest s t u node o opens after ih =>
      cases o with
      | ok ms => cases failed
      | error g => exact ih failed
  | sink opens below ih => exact ih failed
  | @rise n path parent r rest s t u v d ms o opens below after ihBelow ihAfter =>
      cases o with
      | ok others => cases failed
      | error g => exact ihAfter failed

end Build

namespace Builder

variable {b : Builder σ} {root : PlacedManifest} {depth : Int} {s : BuildState σ}

theorem degrades_build : s.Degrades b (b.build root depth s).2 := by
  obtain ⟨-, refused⟩ | ⟨n, o, t, rfl, run, result⟩ := b.build_cases root depth s
  · rw [refused]
    exact .of_eq rfl
  · have start : s.Degrades b (s.told .debug "Started building the dependency graph") := .of_eq rfl
    rw [result]
    exact start.trans (run.degrades.trans (.of_eq (by simp only [closed_stats])))

/-- A build that degrades nothing, and does not fail with what is excusable, is the same in either
mode. -/
theorem build_inMode (mode : Bool)
    (steady : (b.build root depth s).2.stats.degraded = s.stats.degraded)
    (plain : ∀ f, (b.build root depth s).1 = .error f → ¬ f.Excusable) :
    (b.inMode mode).build root depth s = b.build root depth s := by
  obtain ⟨neg, refused⟩ | ⟨n, o, t, rfl, run, result⟩ := b.build_cases root depth s
  · rw [refused, (b.inMode mode).build_of_neg root depth s neg]
  · rw [result] at steady plain ⊢
    rw [closed_stats] at steady
    refine build_of_expands (run.inMode mode steady fun f failed => plain f ?_)
    rw [failed]
    rfl

/-- A strict build returns a tree just when the lenient one does and degrades nothing. Unless it fails
with what a lenient build puts up with, the lenient build comes to the same outcome and the same state.
And the lenient build never fails with that, if its collaborators report none of it themselves. -/
theorem modes_of_build (b : Builder σ) (root : PlacedManifest) (depth : Int) (world : σ) :
    ((∃ t, ((b.inMode false).build root depth (.fresh world)).1 = .ok t) ↔
      (∃ t, ((b.inMode true).build root depth (.fresh world)).1 = .ok t) ∧
        ((b.inMode true).build root depth (.fresh world)).2.stats.degraded = 0) ∧
    ((∀ f, ((b.inMode false).build root depth (.fresh world)).1 = .error f → ¬ f.Excusable) →
      (b.inMode true).build root depth (.fresh world) =
        (b.inMode false).build root depth (.fresh world)) ∧
    (b.Civil → ∀ f, ((b.inMode true).build root depth (.fresh world)).1 = .error f →
      ¬ f.Excusable) := by
  have steady : ((b.inMode false).build root depth (.fresh world)).2.stats.degraded = 0 :=
    (degrades_build (b := b.inMode false) (s := .fresh world)).strict rfl
  have agree : (∀ f, ((b.inMode false).build root depth (.fresh world)).1 = .error f →
      ¬ f.Excusable) → (b.inMode true).build root depth (.fresh world) =
        (b.inMode false).build root depth (.fresh world) :=
    build_inMode (b := b.inMode false) true steady
  refine ⟨⟨?_, ?_⟩, agree, ?_⟩
  · rintro ⟨t, built⟩
    have same := agree fun f failed => nomatch built.symm.trans failed
    rw [same]
    exact ⟨⟨t, built⟩, steady⟩
  · rintro ⟨⟨t, built⟩, none⟩
    have same := build_inMode (b := b.inMode true) false none fun f failed =>
      nomatch built.symm.trans failed
    exact ⟨t, (congrArg Prod.fst same).trans built⟩
  · intro civil f failed
    obtain ⟨-, refused⟩ | ⟨n, o, t, rfl, run, result⟩ :=
      (b.inMode true).build_cases root depth (.fresh world)
    · rw [refused] at failed
      cases failed
      exact id
    · rw [result] at failed
      have civil : (b.inMode true).Civil := ⟨civil.resolver, civil.classifier⟩
      cases o with
      | ok ns => cases failed
      | error g =>
          cases failed
          exact run.not_excusable rfl civil rfl

/-- One module is found and requires two others, of which one has no license, and the text of the other
cannot be told. -/
def untold : Builder Unit where
  resolver _ r := ExceptT.mk (pure (
    if r.id = "a@v1" then .ok ⟨some (Chart.manifest "a" ["b", "c"]), some [77, 73, 84]⟩
    else if r.id = "b@v1" then .ok ⟨none, none⟩
    else .ok ⟨none, some [63]⟩))
  classifier data := ExceptT.mk (pure (
    if data = [63] then .error (.problem (.new .classification none none)) else .ok "MIT"))
  lenient := true

theorem untold_civil : untold.Civil where
  resolver parent r scene f failed := by
    have found : ∃ content, ((untold.resolver parent r).run.run scene).1 = .ok content := by
      simp only [untold]
      split
      · exact ⟨_, rfl⟩
      · split <;> exact ⟨_, rfl⟩
    obtain ⟨content, found⟩ := found
    exact nomatch found.symm.trans failed
  classifier data scene f failed := by
    by_cases told : data = [63]
    · subst told
      cases failed
      nofun
    · simp only [untold, told, if_false] at failed
      cases failed

/-- A strict build fails over the missing license, and a lenient one goes on and fails over the text.
Both fail alike where they come to the text alone. -/
theorem modes_of_build_untold :
    (∃ f g, ((untold.inMode false).build (Chart.manifest "m" ["a"]) 2 (.fresh ())).1 = .error f ∧
      f.Excusable ∧
      ((untold.inMode true).build (Chart.manifest "m" ["a"]) 2 (.fresh ())).1 = .error g ∧
        ¬ g.Excusable) ∧
    (untold.inMode true).build (Chart.manifest "m" ["c"]) 1 (.fresh ()) =
      (untold.inMode false).build (Chart.manifest "m" ["c"]) 1 (.fresh ()) := by
  constructor
  · obtain ⟨-, -, never⟩ := modes_of_build untold (Chart.manifest "m" ["a"]) 2 ()
    have strict : ((untold.inMode false).build (Chart.manifest "m" ["a"]) 2 (.fresh ())).1 =
        .error (.problem (.new (.licenseNotFound none) none (some ⟨"b", "v1"⟩))) := by rfl
    have lenient : ((untold.inMode true).build (Chart.manifest "m" ["a"]) 2 (.fresh ())).1 =
        .error (.problem ((Problem.new .classification none none).withModule ⟨"c", "v1"⟩)) := by rfl
    exact ⟨_, _, strict, rfl, lenient, never untold_civil _ lenient⟩
  · obtain ⟨-, agree, -⟩ := modes_of_build untold (Chart.manifest "m" ["c"]) 1 ()
    have strict : ((untold.inMode false).build (Chart.manifest "m" ["c"]) 1 (.fresh ())).1 =
        .error (.problem ((Problem.new .classification none none).withModule ⟨"c", "v1"⟩)) := by rfl
    refine agree fun f failed => ?_
    cases strict.symm.trans failed
    nofun

end Builder

end Attribution

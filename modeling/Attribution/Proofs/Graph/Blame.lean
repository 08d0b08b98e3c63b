import Attribution.Proofs.Graph.Circle
import Attribution.Proofs.Graph.Review

/-!
Which module a problem names. A build that ends in a problem ends at an encounter: a collaborator fails
there, or the requirement closes a circle or has no license. The problem names the module that the
collaborator put on it or, if there is none, the requirement that was met, and nothing on the way back
to the root names another one.
-/

namespace Attribution

variable {σ : Type}

namespace Problem

variable {p : Problem} {v : ModuleVersion}

/-- What is recorded of a new problem is what is printed of it. -/
theorem recorded_new (kind : Kind) (message : Option String) (module : Option ModuleVersion) :
    (new kind message module).recorded = (new kind message module).text := rfl

theorem withModule_module : (p.withModule v).module = p.module.or (some v) := by
  unfold withModule
  cases named : p.module with
  | none => rfl
  | some w => exact named

theorem recorded_withModule (told : p.recorded = p.text) :
    (p.withModule v).recorded = (p.withModule v).text := by
  unfold withModule
  cases p.module with
  | none => rfl
  | some w => exact told

/-- Of the modules that are attached one after the other, the first stays. -/
theorem module_foldl (p : Problem) (vs : List ModuleVersion) :
    (vs.foldl withModule p).module = p.module.or vs.head? := by
  induction vs generalizing p with
  | nil => exact Option.or_none.symm
  | cons v vs ih =>
      rw [List.foldl_cons, ih, withModule_module, Option.or_assoc]
      rfl

theorem recorded_foldl (told : p.recorded = p.text) (vs : List ModuleVersion) :
    (vs.foldl withModule p).recorded = (vs.foldl withModule p).text := by
  induction vs generalizing p with
  | nil => exact told
  | cons v vs ih => exact ih (recorded_withModule told)

theorem text_of_module (named : p.module = some v) : p.text = v.text ++ ": " ++ p.message := by
  rw [text, named]
  rfl

end Problem

namespace Encounter

/-- A build ends at an encounter in a problem. The collaborator that was called last put `own` on it, if
it failed; the others are problems of the builder itself. -/
inductive Halts (b : Builder σ) (x : Encounter σ) :
    Option ModuleVersion → Problem → BuildState σ → Prop
  | unfound {q : Problem} (miss : x.state.cache.find? x.requirement.id = none)
      (fails : ((b.resolver x.parent x.requirement).run.run
        (x.state.entered x.requirement).toScene).1 = .error (.problem q)) :
      Halts b x q.module (q.withModule x.requirement.version)
        ((x.state.entered x.requirement).inquired b x.parent x.requirement)
  | unlabelled {content : Content} {byte : UInt8} {bytes : Bytes} {q : Problem}
      (miss : x.state.cache.find? x.requirement.id = none)
      (found : ((b.resolver x.parent x.requirement).run.run
        (x.state.entered x.requirement).toScene).1 = .ok content)
      (text : content.license = some (byte :: bytes))
      (fails : ((b.classifier (byte :: bytes)).run.run
        ((x.state.entered x.requirement).inquired b x.parent x.requirement).toScene).1 =
          .error (.problem q)) :
      Halts b x q.module (q.withModule x.requirement.version)
        (((x.state.entered x.requirement).inquired b x.parent x.requirement).judged b
          (byte :: bytes))
  | unlicensed {content : Content} (strict : b.lenient = false)
      (miss : x.state.cache.find? x.requirement.id = none)
      (found : ((b.resolver x.parent x.requirement).run.run
        (x.state.entered x.requirement).toScene).1 = .ok content)
      (blank : ∀ byte bytes, content.license ≠ some (byte :: bytes)) :
      Halts b x none (.new (.licenseNotFound none) none (some x.requirement.version))
        ((x.state.entered x.requirement).inquired b x.parent x.requirement)
  | circle (strict : b.lenient = false) (again : x.Again) :
      Halts b x none (.new (.cycle x.reported) none (some x.requirement.version))
        (x.state.entered x.requirement)

variable {b : Builder σ} {x : Encounter σ} {own : Option ModuleVersion} {p : Problem}
  {t : BuildState σ}

/-- What the collaborator put on the problem stays, else the requirement is named. -/
theorem Halts.module (halts : x.Halts b own p t) :
    p.module = some (own.getD x.requirement.version) := by
  cases halts with
  | @unfound q miss fails => rw [Problem.withModule_module, Option.or_some]
  | @unlabelled content byte bytes q miss found text fails =>
      rw [Problem.withModule_module, Option.or_some]
  | unlicensed | circle => rfl

theorem exists_halts
    (opens : Build.Opens b x.parent x.requirement x.trail.ids x.state x.levels
      (.done (.error (.problem p))) t) : ∃ own, x.Halts b own p t := by
  obtain ⟨levels, trail, parent, r, s⟩ := x
  cases opens with
  | cycleError again strict => exact ⟨none, .circle strict ⟨Nat.zero_lt_succ _, again⟩⟩
  | search new miss settled =>
      generalize made : b.verdict parent r (s.entered r).toScene = verdict at settled
      cases settled with
      | failed =>
          obtain ⟨g, fails, same⟩ := Verdict.of_fail made
          cases g with
          | fault f => cases same
          | problem q =>
              cases same
              exact ⟨_, .unfound miss fails⟩
      | @unlicensed content _ _ run =>
          generalize refused : Except.error (Failure.problem p) = outcome at run
          cases Build.licenses_of_run run with
          | labelled | placeholder => cases refused
          | @refused byte bytes g text fails =>
              cases g with
              | fault f => cases refused
              | problem q =>
                  cases refused
                  obtain found | ⟨-, missing, -⟩ := Verdict.settle_cases made
                  · exact ⟨_, .unlabelled miss found text fails⟩
                  · rw [missing] at text
                    cases text
          | missing blank strict =>
              cases refused
              obtain found | ⟨lenient, -⟩ := Verdict.settle_cases made
              · exact ⟨none, .unlicensed strict miss found blank⟩
              · rw [strict] at lenient
                cases lenient

end Encounter

namespace Builder

/-- A build that ends in a problem ends at an encounter of it. -/
theorem exists_halts_of_error {b : Builder σ} {root : PlacedManifest} {depth : Int}
    {s t : BuildState σ} {p : Problem}
    (failed : b.build root depth s = (.error (.problem p), t)) :
    ∃ x own, b.Meets root depth s x ∧ x.Halts b own p t := by
  obtain ⟨-, same⟩ | ⟨x, u, meets, stops⟩ :=
    exists_meets_of_error (congrArg Prod.fst failed)
  · cases same
  · obtain ⟨n, rfl, inside⟩ := meets
    have ends := build_of_expands (Build.Meets.error inside stops)
    rw [failed] at ends
    cases ends
    obtain ⟨own, halts⟩ := Encounter.exists_halts stops
    exact ⟨x, own, ⟨n, rfl, inside⟩, halts⟩

/-- Whatever happened before and in both modes, a build that ends in a problem names the module that
the failing collaborator named itself, else the requirement at which it ended, and no module on the way
to it; the text is that of the module before the message. And of any modules that are attached to a
problem the first stays, with the text recorded at each step. -/
theorem blamed_of_build (b : Builder σ) (root : PlacedManifest) (depth : Int) (s : BuildState σ) :
    (∀ p t, b.build root depth s = (.error (.problem p), t) →
      ∃ x own, b.Meets root depth s x ∧ x.Halts b own p t ∧
        p.module = some (own.getD x.requirement.version) ∧
        p.text = (own.getD x.requirement.version).text ++ ": " ++ p.message) ∧
    ∀ kind message module (vs : List ModuleVersion),
      let p := vs.foldl Problem.withModule (.new kind message module)
      p.module = module.or vs.head? ∧ p.recorded = p.text := by
  refine ⟨fun p t failed => ?_, fun kind message module vs => ⟨?_, ?_⟩⟩
  · obtain ⟨x, own, meets, halts⟩ := exists_halts_of_error failed
    exact ⟨x, own, meets, halts, halts.module, Problem.text_of_module halts.module⟩
  · exact Problem.module_foldl _ vs
  · exact Problem.recorded_foldl (Problem.recorded_new kind message module) vs

/-- A module is found, and the one that it requires cannot be fetched. -/
def forlorn : Builder Unit where
  resolver _ r := ExceptT.mk (pure (
    if r.id = "a@v1" then .ok ⟨some (Chart.manifest "a" ["b"]), some [77, 73, 84]⟩
    else .error (.problem (.new .download (some "gone") none))))
  classifier _ := pure "MIT"
  lenient := false

/-- The module that could not be fetched is named, and not the one that requires it. -/
theorem blamed_of_build_forlorn :
    ∃ p t, ∃ x : Encounter Unit, ∃ own,
      forlorn.build (Chart.manifest "m" ["a"]) 2 (.fresh ()) = (.error (.problem p), t) ∧
      x.Halts forlorn own p t ∧ own.getD x.requirement.version = ⟨"b", "v1"⟩ ∧
      p.text = "b@v1: gone" := by
  have shown : (match (forlorn.build (Chart.manifest "m" ["a"]) 2 (.fresh ())).1 with
      | .ok _ => none
      | .error f => some f) =
        some (Failure.problem ⟨.download, "gone", some ⟨"b", "v1"⟩, "b@v1: gone"⟩) := by
    decide +kernel
  rcases ended : forlorn.build (Chart.manifest "m" ["a"]) 2 (.fresh ()) with ⟨f | tree, t⟩ <;>
    rw [ended] at shown <;> cases shown
  obtain ⟨x, own, -, halts, named, -⟩ :=
    (blamed_of_build forlorn (Chart.manifest "m" ["a"]) 2 (.fresh ())).1 _ t ended
  exact ⟨_, t, x, own, rfl, halts, (Option.some.inj named).symm, by decide +kernel⟩

end Builder

end Attribution

import Attribution.Proofs.License.Choice

/-!
The label of a license text of which the header says nothing: that of the winning signature. The
threshold decides only whether there is a label, not which.
-/

namespace Attribution.License

open Text

variable {σ : Type}

/-- A header says nothing: there is none, or none that holds an expression. -/
def Silent (e : ExpressionReader) (text : List Char) : Prop :=
  fromHeader e text = .ok none ∨ ∃ message, fromHeader e text = .error (.invalid message)

section

variable {e : ExpressionReader} {t : Threshold} {data : Bytes} {text : List Char} {s r : Signature}

theorem phrases_ne_nil : ∀ s ∈ signatures, s.phrases ≠ [] := by decide

theorem outcome_of_eligible (found : ∃ s ∈ signatures, Eligible t (normalize text) s)
    (scene : Scene σ) : ∃ s, Wins t (normalize text) signatures s ∧
      ((classifyText t text).run.run scene).1 = .ok s.key := by
  obtain ⟨s, mem, fit⟩ := found
  obtain ⟨-, unfit⟩ | ⟨w, best, wins⟩ := foldl_consider t (normalize text) signatures
  · exact absurd fit (unfit s mem)
  · refine ⟨w, wins, ?_⟩
    rw [classifyText, show bestFit t (normalize text) = _ from best]
    rfl

theorem outcome_of_unfit (unfit : ∀ s ∈ signatures, ¬ Eligible t (normalize text) s)
    (scene : Scene σ) : ∃ p, ((classifyText t text).run.run scene).1 = .error (.problem p) ∧
      p.kind = .classification := by
  obtain ⟨nothing, -⟩ | ⟨w, -, wins⟩ := foldl_consider t (normalize text) signatures
  · rw [classifyText, show bestFit t (normalize text) = _ from nothing]
    exact ⟨_, rfl, rfl⟩
  · exact absurd wins.1 (unfit w wins.mem)

theorem outcome_of_wins (wins : Wins t (normalize text) signatures s) (scene : Scene σ) :
    ((classifyText t text).run.run scene).1 = .ok s.key := by
  obtain ⟨w, wins', done⟩ := outcome_of_eligible ⟨s, wins.mem, wins.1⟩ scene
  rw [done, wins.unique wins']

/-- A signature of which all phrases occur loses to none of which only some do. -/
theorem Wins.whole {text : List Char} (wins : Wins t text signatures s) (mem : r ∈ signatures)
    (fit : Eligible t text r) (whole : r.Whole text) : s.Whole text := by
  refine (Signature.score_eq_one_iff (phrases_ne_nil s wins.mem)).mp ?_
  refine le_antisymm Signature.score_le_one ?_
  rw [← (Signature.score_eq_one_iff (phrases_ne_nil r mem)).mpr whole]
  exact Prod.Lex.monotone_fst _ _ (wins.le mem fit)

theorem eligible_of_whole {text : List Char} (mem : s ∈ signatures) (whole : s.Whole text)
    (allowed : ∀ p ∈ s.excludes, ¬ p.toList <:+: text) : Eligible t text s :=
  ⟨allowed, ((Signature.score_eq_one_iff (phrases_ne_nil s mem)).mpr whole).symm ▸ t.le_one⟩

/-- The only signature of which all phrases occur labels the text, if nothing rules it out. -/
theorem outcome_of_whole (mem : r ∈ signatures)
    (allowed : ∀ p ∈ r.excludes, ¬ p.toList <:+: normalize text) (whole : r.Whole (normalize text))
    (only : ∀ s ∈ signatures, s.Whole (normalize text) → s = r) (scene : Scene σ) :
    ((classifyText t text).run.run scene).1 = .ok r.key := by
  have fit : Eligible t (normalize text) r := eligible_of_whole mem whole allowed
  obtain ⟨s, wins, done⟩ := outcome_of_eligible ⟨r, mem, fit⟩ scene
  rw [done, only s wins.mem (wins.whole mem fit whole)]

theorem silent_of_headless (headless : header? text = none) : Silent e text :=
  .inl (by rw [fromHeader, headless])

theorem classify_of_silent (solid : trim data.toText ≠ []) (silent : Silent e data.toText)
    (scene : Scene σ) : ((classify e t data).run.run scene).1 =
      ((classifyText t data.toText).run.run scene).1 := by
  simp only [classify, List.isEmpty_eq_false_iff.mpr solid, Bool.false_eq_true, if_false]
  obtain nothing | ⟨message, refused⟩ := silent
  · rw [nothing]
  · rw [refused]
    exact outcome_classifyText t data.toText _ _

end

/-- What a license text comes to is the same at every threshold, or is at every threshold what its
phrases come to. -/
theorem classify_cases (σ : Type) (e : ExpressionReader) (data : Bytes) :
    (∃ done, ∀ t (scene : Scene σ), ((classify e t data).run.run scene).1 = done) ∨
      ∀ t (scene : Scene σ), ((classify e t data).run.run scene).1 =
        ((classifyText t data.toText).run.run scene).1 := by
  by_cases solid : trim data.toText = []
  · refine .inl ⟨.error (.problem (.new .classification (some Cause.emptyText.message) none)), ?_⟩
    intro t scene
    simp only [classify, List.isEmpty_iff.mpr solid, if_true]
    rfl
  · by_cases silent : Silent e data.toText
    · exact .inr fun t scene => classify_of_silent solid silent scene
    · -- The header has a label or escapes.
      left
      simp only [classify, List.isEmpty_eq_false_iff.mpr solid, Bool.false_eq_true, if_false]
      cases said : fromHeader e data.toText with
      | ok label =>
          cases label with
          | none => exact absurd (.inl said) silent
          | some label => exact ⟨.ok label, fun t scene => rfl⟩
      | error refusal =>
          cases refusal with
          | invalid message => exact absurd (.inr ⟨message, said⟩) silent
          | accident fault => exact ⟨.error (.fault fault), fun t scene => rfl⟩

/-- A text that is not blank and of which the header says nothing comes to a problem with the
classification just when no signature is eligible. Otherwise its label is that of the eligible one
of which the greatest share of phrases occurs, among equals the one with the most phrases there,
among equals the first. One of which only some phrases occur does not come before one of which all
do. -/
theorem chosen_of_classify {e : ExpressionReader} (t : Threshold) {data : Bytes}
    (solid : trim data.toText ≠ []) (silent : Silent e data.toText) (scene : Scene σ) :
    let text := normalize data.toText
    let done := ((classify e t data).run.run scene).1
    ((∃ p, done = .error (.problem p) ∧ p.kind = .classification) ↔
      ∀ s ∈ signatures, ¬ Eligible t text s) ∧
    ((∃ s ∈ signatures, Eligible t text s) →
      ∃ s, Wins t text signatures s ∧ done = .ok s.key) ∧
    ∀ s, Wins t text signatures s → done = .ok s.key ∧
      ∀ r ∈ signatures, Eligible t text r → r.Whole text → s.Whole text := by
  intro text done
  have same : done = ((classifyText t data.toText).run.run scene).1 :=
    classify_of_silent solid silent scene
  rw [same]
  refine ⟨⟨?_, fun unfit => outcome_of_unfit unfit scene⟩,
    fun found => outcome_of_eligible found scene,
    fun s wins => ⟨outcome_of_wins wins scene, fun r mem fit whole => wins.whole mem fit whole⟩⟩
  rintro ⟨p, failed, -⟩ s mem fit
  obtain ⟨w, -, labelled⟩ := outcome_of_eligible ⟨s, mem, fit⟩ scene
  rw [labelled] at failed
  cases failed

/-- One half, as a threshold. -/
def Threshold.half : Threshold where
  given := .real (.finite false 4503599627370496 (-53))
  value := 1 / 2
  value_eq := by decide +kernel
  pos := by decide +kernel
  le_one := by decide +kernel

/-- A license text that holds one signature in whole and halves of two others. -/
def generalPublic : Bytes :=
  Bytes.ofString "GNU \"General\" Public License\n  Version 3, 29 June 2007"

theorem normalize_generalPublic : normalize generalPublic.toText =
    "gnu general public license version 3, 29 june 2007".toList := by decide +kernel

theorem solid_generalPublic : trim generalPublic.toText ≠ [] := by decide +kernel

theorem silent_generalPublic (e : ExpressionReader) : Silent e generalPublic.toText :=
  silent_of_headless (by decide +kernel)

/-- The signature that the text holds in whole. -/
def general : Signature :=
  ⟨"GPL-3.0-only", ["gnu general public license", "version 3, 29 june 2007"],
    ["gnu lesser general public license", "gnu affero general public license"]⟩

theorem general_mem : general ∈ signatures := by decide +kernel

theorem allowed_generalPublic :
    ∀ p ∈ general.excludes, ¬ p.toList <:+: normalize generalPublic.toText := by
  rw [normalize_generalPublic]
  decide +kernel

theorem whole_generalPublic : ∀ s ∈ signatures,
    s.Whole (normalize generalPublic.toText) ↔ s = general := by
  rw [normalize_generalPublic]
  decide +kernel

/-- One half lets in a signature that comes earlier in the table, but of which half is missing. -/
theorem chosen_of_classify_whole :
    let text := normalize generalPublic.toText
    let lesser : Signature :=
      ⟨"LGPL-3.0-only", ["gnu lesser general public license", "version 3, 29 june 2007"], []⟩
    (trim generalPublic.toText ≠ [] ∧ Silent bareReader generalPublic.toText) ∧
      [lesser, general].Sublist signatures ∧ Eligible .half text lesser ∧
        Eligible .half text general ∧
          ((classify bareReader .half generalPublic).run.run (⟨(), []⟩ : Scene Unit)).1 =
            .ok general.key := by
  intro text lesser
  have order : [lesser, general].Sublist signatures := by decide +kernel
  have half : Eligible .half text lesser := by
    rw [show text = _ from normalize_generalPublic]
    decide +kernel
  have whole : general.Whole text := (whole_generalPublic general general_mem).mpr rfl
  have fit : Eligible .half text general := by
    refine ⟨allowed_generalPublic, ?_⟩
    rw [(Signature.score_eq_one_iff (phrases_ne_nil general general_mem)).mpr whole]
    exact Threshold.half.le_one
  obtain ⟨-, labelled, label⟩ := chosen_of_classify .half solid_generalPublic
    (silent_generalPublic bareReader) (⟨(), []⟩ : Scene Unit)
  obtain ⟨s, wins, done⟩ := labelled ⟨general, general_mem, fit⟩
  have same : s = general :=
    (whole_generalPublic s wins.mem).mp ((label s wins).2 general general_mem fit whole)
  exact ⟨⟨solid_generalPublic, silent_generalPublic bareReader⟩, order, half, fit, same ▸ done⟩

/-- A label at a threshold is the label at every lower one. So a higher threshold leaves a label as
it is, or it comes to a problem with the classification. -/
theorem steady_of_classify (e : ExpressionReader) (data : Bytes) {t₁ t₂ : Threshold}
    (lower : t₁.value ≤ t₂.value) (scene₁ scene₂ : Scene σ) :
    let low := ((classify e t₁ data).run.run scene₁).1
    let high := ((classify e t₂ data).run.run scene₂).1
    (∀ label, high = .ok label → low = .ok label) ∧
      ∀ label, low = .ok label →
        high = .ok label ∨ ∃ p, high = .error (.problem p) ∧ p.kind = .classification := by
  intro low high
  obtain ⟨done, always⟩ | phrases := classify_cases σ e data
  · have same : low = high := (always t₁ scene₁).trans (always t₂ scene₂).symm
    exact ⟨fun label told => same.trans told, fun label told => .inl (same.symm.trans told)⟩
  · have low_eq : low = _ := phrases t₁ scene₁
    have high_eq : high = _ := phrases t₂ scene₂
    by_cases found : ∃ s ∈ signatures, Eligible t₂ (normalize data.toText) s
    · obtain ⟨s, wins, labelled⟩ := outcome_of_eligible found scene₂
      have same : low = high := by
        rw [low_eq, high_eq, labelled]
        exact outcome_of_wins (wins.lower lower) scene₁
      exact ⟨fun label told => same.trans told, fun label told => .inl (same.symm.trans told)⟩
    · have unfit (s) (mem : s ∈ signatures) : ¬ Eligible t₂ (normalize data.toText) s :=
        fun fit => found ⟨s, mem, fit⟩
      obtain ⟨p, failed, kind⟩ := outcome_of_unfit unfit scene₂
      rw [← high_eq] at failed
      refine ⟨fun label told => ?_, fun _ _ => .inr ⟨p, failed, kind⟩⟩
      rw [failed] at told
      cases told

/-- What has a label at four fifths has it at one half, where more signatures are eligible. -/
theorem steady_of_classify_whole :
    let label (t : Threshold) :=
      ((classify bareReader t generalPublic).run.run (⟨(), []⟩ : Scene Unit)).1
    Threshold.half.value ≤ Threshold.default.value ∧ label .default = .ok general.key ∧
      label .half = .ok general.key := by
  intro label
  have lower : Threshold.half.value ≤ Threshold.default.value := by decide +kernel
  have high : label .default = .ok general.key :=
    (classify_of_silent solid_generalPublic (silent_generalPublic bareReader) ⟨(), []⟩).trans
      (outcome_of_whole general_mem allowed_generalPublic
        ((whole_generalPublic _ general_mem).mpr rfl)
        (fun s mem => (whole_generalPublic s mem).mp) ⟨(), []⟩)
  exact ⟨lower, high, (steady_of_classify bareReader generalPublic lower ⟨(), []⟩ ⟨(), []⟩).1 _ high⟩

end Attribution.License

import Attribution.Proofs.License.Label
import Attribution.Proofs.Text.LetterCase
import Attribution.Proofs.Text.Utf8
import Mathlib.Data.List.Basic
import Mathlib.Logic.Relation

/-!
The layout of a license text does not count: how its words are set apart and which letters of it are
capitals, nor the quotes in it. Such changes may alter the normal form of a text, since a capital sigma
looks for the end of its word; but they alter nothing else in it than the form of a small sigma, and no
phrase has one.
-/

namespace Attribution.License

open Text

variable {σ : Type}

/-- A text and another layout of it. -/
inductive Relaid : List Char → List Char → Prop
  | gap (before after : List Char) {gap gap' : List Char} (blank : Blank gap) (blank' : Blank gap')
      (some : gap ≠ []) (some' : gap' ≠ []) :
      Relaid (before ++ (gap ++ after)) (before ++ (gap' ++ after))
  | front (s : List Char) {gap : List Char} (blank : Blank gap) : Relaid s (gap ++ s)
  | back (s : List Char) {gap : List Char} (blank : Blank gap) : Relaid s (s ++ gap)
  | letter (before after : List Char) {c d : Char} (same : c.toLower = d.toLower) :
      Relaid (before ++ c :: after) (before ++ d :: after)
  | quote (before after : List Char) {c : Char} (quote : isDroppedQuote c = true) :
      Relaid (before ++ after) (before ++ c :: after)

/-- What the normal form of a text keeps of it, up to the form of a small sigma. -/
def kept (s : List Char) : List Char := (s.flatMap small).filter (!isDroppedQuote ·)

/-- The normal form of a text, up to the form of a small sigma. -/
def outline (s : List Char) : List Char := trim (squeeze (kept s))

section

variable {s s' p text : List Char} {c : Char}

theorem kept_append (s s' : List Char) : kept (s ++ s') = kept s ++ kept s' := by
  simp only [kept, List.flatMap_append, List.filter_append]

theorem kept_cons (c : Char) (s : List Char) : kept (c :: s) = kept [c] ++ kept s :=
  kept_append [c] s

theorem not_quote_of_blank (blank : isBlank c = true) : isDroppedQuote c = false := by
  cases quote : isDroppedQuote c with
  | false => rfl
  | true =>
      simp only [isDroppedQuote, Bool.or_eq_true, decide_eq_true_eq] at quote
      rcases quote with (((((rfl | rfl) | rfl) | rfl) | rfl) | rfl) | rfl <;> cases blank

theorem kept_blank (blank : Blank s) : kept s = s := by
  induction s with
  | nil => rfl
  | cons c s ih =>
      obtain ⟨first, rest⟩ := List.forall_mem_cons.mp blank
      rw [kept_cons, ih rest]
      simp [kept, small_blank first, not_quote_of_blank first]

theorem kept_quote (quote : isDroppedQuote c = true) : kept [c] = [] := by
  simp only [isDroppedQuote, Bool.or_eq_true, decide_eq_true_eq] at quote
  rcases quote with (((((rfl | rfl) | rfl) | rfl) | rfl) | rfl) | rfl <;> decide +kernel

theorem kept_toLower (c : Char) : kept [c.toLower] = kept [c] := by
  simp only [kept, List.flatMap_singleton, small_toLower]

theorem isDroppedQuote_plainSigma (c : Char) :
    isDroppedQuote (plainSigma c) = isDroppedQuote c := by
  unfold plainSigma
  split
  next final =>
    subst final
    decide
  next => rfl

theorem normalize_map (s : List Char) : (normalize s).map plainSigma = outline s := by
  have test : (fun c => !isDroppedQuote c) ∘ plainSigma = fun c => !isDroppedQuote c :=
    funext fun c => congrArg not (isDroppedQuote_plainSigma c)
  rw [normalize, ← trim_map isBlank_plainSigma, ← squeeze_map plainSigma_space isBlank_plainSigma]
  rw [outline, kept, ← lower_map, List.filter_map, test]

/-- Another layout has the same outline. -/
theorem Relaid.outline_eq (h : Relaid s s') : outline s = outline s' := by
  unfold outline
  cases h with
  | gap before after blank blank' some some' =>
      simp only [kept_append, kept_blank blank, kept_blank blank']
      refine congrArg trim (squeeze_append_congr ?_ _)
      rw [squeeze_blank blank some, squeeze_blank blank' some']
  | front s blank => rw [kept_append, kept_blank blank, trim_squeeze_front blank]
  | back s blank => rw [kept_append, kept_blank blank, trim_squeeze_back blank]
  | letter before after same =>
      rw [kept_append, kept_append, kept_cons, ← kept_toLower, same, kept_toLower, ← kept_cons]
  | quote before after quote =>
      rw [kept_append, kept_append, kept_cons, kept_quote quote, List.nil_append]

theorem outline_of_eqvGen (h : Relation.EqvGen Relaid s s') : outline s = outline s' := by
  induction h with
  | rel _ _ step => exact step.outline_eq
  | refl _ => rfl
  | symm _ _ _ ih => exact ih.symm
  | trans _ _ _ _ _ first second => exact first.trans second

/-- What has no small sigma occurs in a text if it occurs up to the form of one. -/
theorem infix_map_plainSigma (plain : ∀ c ∈ p, c ≠ 'σ' ∧ c ≠ 'ς') :
    p <:+: text.map plainSigma ↔ p <:+: text := by
  have fixed {d : Char} (mem : plainSigma d ∈ p) : plainSigma d = d := by
    by_cases final : d = 'ς'
    · subst final
      exact absurd rfl (plain _ mem).1
    · exact if_neg final
  rw [List.infix_map_iff]
  constructor
  · rintro ⟨part, inside, rfl⟩
    have same : part.map plainSigma = part :=
      (List.map_congr_left fun d mem => fixed (List.mem_map_of_mem mem)).trans (List.map_id part)
    rwa [same]
  · intro inside
    refine ⟨p, inside, ?_⟩
    refine ((List.map_congr_left fun d mem => ?_).trans (List.map_id p)).symm
    exact if_neg (plain d mem).2

theorem mem_bytes {word : String} {b : UInt8} (mem : c ∈ word.toList)
    (byte : b ∈ String.utf8EncodeChar c) : b ∈ word.toByteArray.data.toList := by
  rw [← String.utf8Encode_toList, List.utf8Encode, List.data_toByteArray]
  exact List.mem_flatMap.mpr ⟨c, mem, byte⟩

private theorem phrases_bytes : ∀ s ∈ signatures, ∀ p ∈ s.phrases ++ s.excludes,
    0xcf ∉ p.toByteArray.data.toList := by decide +kernel

/-- Both forms of a small sigma have a byte that is in no phrase. -/
theorem phrases_plain : ∀ s ∈ signatures, ∀ p ∈ s.phrases ++ s.excludes,
    ∀ c ∈ p.toList, c ≠ 'σ' ∧ c ≠ 'ς' := by
  intro s known p mem c here
  constructor
  all_goals
    rintro rfl
    exact phrases_bytes s known p mem (mem_bytes here (by decide))

end

section

variable {e : ExpressionReader} {t : Threshold} {s s' text text' : List Char} {data : Bytes}

theorem consider_congr {r : Signature} (excluded : r.isExcluded text = r.isExcluded text')
    (matched : r.matched text = r.matched text') (best : Option Fit) :
    consider t text best r = consider t text' best r := by
  have score : r.score text = r.score text' := by rw [Signature.score, Signature.score, matched]
  simp only [consider, excluded, score, matched]

/-- Texts with the same phrases have the same best fit. -/
theorem bestFit_congr (same : ∀ r ∈ signatures, ∀ p ∈ r.phrases ++ r.excludes,
    p.toList <:+: text ↔ p.toList <:+: text') : bestFit t text = bestFit t text' := by
  refine List.foldl_ext _ _ _ fun best r known => ?_
  have excluded : r.isExcluded text = r.isExcluded text' := by
    rw [Bool.eq_iff_iff, Signature.isExcluded_iff, Signature.isExcluded_iff]
    exact exists_congr fun p => and_congr_right fun mem =>
      same r known p (List.mem_append_right _ mem)
  have matched : r.matched text = r.matched text' := by
    refine congrArg List.length (List.filter_congr fun p mem => ?_)
    rw [Bool.eq_iff_iff, occursIn_iff, occursIn_iff]
    exact same r known p (List.mem_append_left _ mem)
  exact consider_congr excluded matched best

theorem classifyText_congr (same : outline s = outline s') :
    (classifyText t s : Run σ String) = classifyText t s' := by
  have fits : bestFit t (normalize s) = bestFit t (normalize s') := by
    refine bestFit_congr fun r known p mem => ?_
    have plain := phrases_plain r known p mem
    rw [← infix_map_plainSigma plain, normalize_map, same, ← normalize_map,
      infix_map_plainSigma plain]
  rw [classifyText, classifyText, fits]

/-- A text comes to a problem with the classification. -/
def Unlabelled (done : Except Failure String) : Prop :=
  ∃ p, done = .error (.problem p) ∧ p.kind = .classification

theorem normalize_of_blank (blank : Blank s) : normalize s = [] := by
  have nothing : outline s = [] := by
    have front := trim_squeeze_front blank []
    rw [List.append_nil] at front
    rw [outline, kept_blank blank, front]
    rfl
  rw [← normalize_map] at nothing
  exact List.map_eq_nil_iff.mp nothing

theorem phrase_ne_empty : ∀ s ∈ signatures, ∀ p ∈ s.phrases, p ≠ "" := by decide +kernel

/-- Nothing is eligible for a text without phrases. -/
theorem not_eligible_nil {r : Signature} (known : r ∈ signatures) : ¬ Eligible t [] r := by
  intro fit
  have none : r.matched [] = 0 := by
    refine List.length_eq_zero_iff.mpr (List.filter_eq_nil_iff.mpr fun p mem occurs => ?_)
    have nothing : p.toList = [] := List.infix_nil.mp ((occursIn_iff _ _).mp occurs)
    exact phrase_ne_empty r known p mem (String.toList_eq_nil_iff.mp nothing)
  have share : r.score [] = 0 := by rw [Signature.score, none, Nat.cast_zero, zero_div]
  exact absurd (share ▸ fit.enough) (not_le.mpr t.pos)

theorem unlabelled_of_blank (t : Threshold) (nothing : trim text = []) (scene : Scene σ) :
    Unlabelled ((classifyText t text).run.run scene).1 := by
  refine outcome_of_unfit (fun r known => ?_) scene
  rw [normalize_of_blank (blank_of_trim nothing)]
  exact not_eligible_nil known

/-- Where a text has no header, its phrases label it. -/
theorem labelled_of_headless {label : String} (headless : header? data.toText = none)
    {scene : Scene σ} (phrases : ((classifyText t data.toText).run.run scene).1 = .ok label) :
    ((classify e t data).run.run scene).1 = .ok label := by
  have solid : trim data.toText ≠ [] := by
    intro nothing
    obtain ⟨p, failed, -⟩ := unlabelled_of_blank t nothing scene
    cases phrases.symm.trans failed
  rw [classify_of_silent solid (silent_of_headless headless)]
  exact phrases

theorem unlabelled_of_headless (headless : header? data.toText = none) {scene : Scene σ}
    (phrases : Unlabelled ((classifyText t data.toText).run.run scene).1) :
    Unlabelled ((classify e t data).run.run scene).1 := by
  by_cases solid : trim data.toText = []
  · simp only [classify, List.isEmpty_iff.mpr solid, if_true]
    exact ⟨_, rfl, rfl⟩
  · rw [classify_of_silent solid (silent_of_headless headless)]
    exact phrases

theorem labelled_or (t : Threshold) (text : List Char) (scene : Scene σ) :
    (∃ label, ((classifyText t text).run.run scene).1 = .ok label) ∨
      Unlabelled ((classifyText t text).run.run scene).1 := by
  have documented := documented_classifyText t text scene
  cases done : ((classifyText t text).run.run scene).1 with
  | ok label => exact .inl ⟨label, rfl⟩
  | error failure =>
      rw [done] at documented
      obtain ⟨p, rfl, kind⟩ := documented
      exact .inr ⟨p, rfl, kind⟩

theorem alike_of_outline {data data' : Bytes} (e : ExpressionReader) (t : Threshold)
    (same : outline data.toText = outline data'.toText) (headless : header? data.toText = none)
    (headless' : header? data'.toText = none) (scene scene' : Scene σ) :
    let done := ((classify e t data).run.run scene).1
    let done' := ((classify e t data').run.run scene').1
    (∃ label, done = .ok label ∧ done' = .ok label) ∨ (Unlabelled done ∧ Unlabelled done') := by
  intro done done'
  have phrases : ((classifyText t data.toText).run.run scene).1 =
      ((classifyText t data'.toText).run.run scene').1 := by
    rw [classifyText_congr same]
    exact outcome_classifyText t data'.toText scene scene'
  obtain ⟨label, told⟩ | failed := labelled_or t data'.toText scene'
  · exact .inl ⟨label, labelled_of_headless headless (phrases.trans told),
      labelled_of_headless headless' told⟩
  · refine .inr ⟨unlabelled_of_headless headless ?_, unlabelled_of_headless headless' failed⟩
    rw [phrases]
    exact failed

/-- Two layouts of a text without a header have the same label, or neither has one. -/
theorem alike_of_relaid (e : ExpressionReader) (t : Threshold)
    (relaid : Relation.EqvGen Relaid s s') (headless : header? s = none)
    (headless' : header? s' = none) (scene scene' : Scene σ) :
    let done := ((classify e t (Utf8.encode s)).run.run scene).1
    let done' := ((classify e t (Utf8.encode s')).run.run scene').1
    (∃ label, done = .ok label ∧ done' = .ok label) ∨ (Unlabelled done ∧ Unlabelled done') := by
  have text : Bytes.toText (Utf8.encode s) = s := Utf8.decodeLossy_encode s
  have text' : Bytes.toText (Utf8.encode s') = s' := Utf8.decodeLossy_encode s'
  have same : outline (Bytes.toText (Utf8.encode s)) = outline (Bytes.toText (Utf8.encode s')) := by
    rw [text, text']
    exact outline_of_eqvGen relaid
  rw [← text] at headless
  rw [← text'] at headless'
  exact alike_of_outline e t same headless headless' scene scene'

end

/-- A license text in several layouts. -/
def eclipse (first : Char) (gap quote margin : List Char) : List Char :=
  first :: ("clipse".toList ++ (gap ++ ("Public License - v 2.0, ΟΣ".toList ++
    (quote ++ 'Ο' :: margin))))

theorem relaid_eclipse :
    Relation.EqvGen Relaid (eclipse 'E' [' '] [] []) (eclipse 'e' ['\n', ' '] ['"'] ['\t']) := by
  have lowered : Relaid (eclipse 'E' [' '] [] []) (eclipse 'e' [' '] [] []) :=
    .letter [] _ (by decide)
  have broken : Relaid (eclipse 'e' [' '] [] []) (eclipse 'e' ['\n', ' '] [] []) :=
    .gap ('e' :: "clipse".toList) _ (by decide) (by decide) (by decide) (by decide)
  have quoted : Relaid (eclipse 'e' ['\n', ' '] [] []) (eclipse 'e' ['\n', ' '] ['"'] []) := by
    have step := Relaid.quote
      ('e' :: ("clipse".toList ++ (['\n', ' '] ++ "Public License - v 2.0, ΟΣ".toList))) ['Ο']
      (show isDroppedQuote '"' = true by decide)
    simpa only [eclipse, List.cons_append, List.append_assoc, List.nil_append] using step
  have ended : Relaid (eclipse 'e' ['\n', ' '] ['"'] []) (eclipse 'e' ['\n', ' '] ['"'] ['\t']) := by
    have step := Relaid.back (eclipse 'e' ['\n', ' '] ['"'] []) (show Blank ['\t'] by decide)
    simpa only [eclipse, List.cons_append, List.append_assoc, List.nil_append] using step
  exact .trans _ _ _ (.trans _ _ _ (.rel _ _ lowered) (.rel _ _ broken))
    (.trans _ _ _ (.rel _ _ quoted) (.rel _ _ ended))

theorem normalize_eclipse : normalize (eclipse 'E' [' '] [] []) =
    "eclipse public license - v 2.0, οσο".toList := by decide +kernel

theorem classify_eclipse :
    ((classify bareReader .default (Utf8.encode (eclipse 'E' [' '] [] []))).run.run
      (⟨(), []⟩ : Scene Unit)).1 = .ok "EPL-2.0" := by
  have text : Bytes.toText (Utf8.encode (eclipse 'E' [' '] [] [])) = eclipse 'E' [' '] [] [] :=
    Utf8.decodeLossy_encode _
  have solid : trim (eclipse 'E' [' '] [] []) ≠ [] := by decide +kernel
  have silent : Silent bareReader (eclipse 'E' [' '] [] []) :=
    silent_of_headless (by decide +kernel)
  have whole : ∀ r ∈ signatures, r.Whole (normalize (eclipse 'E' [' '] [] [])) ↔
      r = ⟨"EPL-2.0", ["eclipse public license - v 2.0"], []⟩ := by
    rw [normalize_eclipse]
    decide +kernel
  rw [classify_of_silent (text.symm ▸ solid) (text.symm ▸ silent), text]
  exact outcome_of_whole (by decide +kernel) (List.forall_mem_nil _)
    ((whole _ (by decide +kernel)).mpr rfl) (fun r known => (whole r known).mp) _

/-- The quote ends a word, so that the normal forms differ in a small sigma, but the label is one. -/
theorem alike_of_relaid_eclipse :
    let one := eclipse 'E' [' '] [] []
    let other := eclipse 'e' ['\n', ' '] ['"'] ['\t']
    let done (s : List Char) :=
      ((classify bareReader .default (Utf8.encode s)).run.run (⟨(), []⟩ : Scene Unit)).1
    Relation.EqvGen Relaid one other ∧ header? one = none ∧ header? other = none ∧
      normalize one ≠ normalize other ∧ done one = .ok "EPL-2.0" ∧ done other = .ok "EPL-2.0" := by
  intro one other done
  have headless : header? one = none := by decide +kernel
  have headless' : header? other = none := by decide +kernel
  have differ : normalize one ≠ normalize other := by
    rw [show normalize one = _ from normalize_eclipse]
    decide +kernel
  have told : done one = .ok "EPL-2.0" := classify_eclipse
  obtain ⟨label, told', same⟩ | ⟨⟨p, untold, -⟩, -⟩ :=
    alike_of_relaid bareReader .default relaid_eclipse headless headless' ⟨(), []⟩
      (⟨(), []⟩ : Scene Unit)
  · cases told.symm.trans told'
    exact ⟨relaid_eclipse, headless, headless', differ, told, same⟩
  · cases told.symm.trans untold

end Attribution.License

import Attribution.Proofs.License.Layout
import Mathlib.Data.List.Dedup
import Mathlib.Data.List.Sublists

/-!
A license text that holds all phrases of a signature, and when it has no label all the same. It may
hold a phrase that rules the signature out, as the text of the GPL, version 2, does, which names the
Lesser GPL at its end. Some of these phrases complete another signature, or leave one of which enough
phrases occur; the text has a label then, whatever else it says. Which ones do not is seen from the
table alone: from the finitely many phrases that rule a signature out.
-/

namespace Attribution.License

open Text

variable {σ : Type}

/-- The phrases that rule a signature out. -/
def markers : List String := (signatures.flatMap Signature.excludes).dedup

/-- The share of a signature's phrases that are among given ones. -/
def Signature.share (s : Signature) (given : List String) : Rat :=
  ((s.phrases.filter given.contains).length : Rat) / s.phrases.length

/-- Given phrases are enough for a label, whatever else a text holds that rules a signature out. -/
def Secure (t : Threshold) (given : List String) : Prop :=
  ∀ more ∈ markers.sublists, ∃ r ∈ signatures,
    (∀ p ∈ r.excludes, p ∉ given ++ more) ∧ t.value ≤ r.share (given ++ more)

instance (t : Threshold) (given : List String) : Decidable (Secure t given) :=
  inferInstanceAs (Decidable (∀ more ∈ markers.sublists, ∃ r ∈ signatures,
    (∀ p ∈ r.excludes, p ∉ given ++ more) ∧ t.value ≤ r.share (given ++ more)))

/-- The phrases that rule a signature out and may leave nothing else that fits, though all of its own
phrases occur. -/
def Signature.bars (s : Signature) (t : Threshold) : List String :=
  s.excludes.filter fun p => ¬ Secure t (p :: s.phrases)

/-- One, as a threshold. -/
def Threshold.one : Threshold where
  given := .real (.finite false 4503599627370496 (-52))
  value := 1
  value_eq := by decide +kernel
  pos := by decide +kernel
  le_one := le_rfl

/-- The name of the Lesser GPL completes its own signature next to that of the GPL, version 3, but not
next to that of version 2. -/
example : (signatures.map fun s => (s.key, s.bars .default)).filter (!·.2.isEmpty) =
    [("BSD-2-Clause", ["all advertising materials"]),
      ("GPL-3.0-only", ["gnu affero general public license"]),
      ("GPL-2.0-only",
        ["gnu lesser general public license", "gnu library general public license"])] := by
  decide +kernel

section

variable {t t₁ t₂ : Threshold} {data : Bytes} {text : List Char} {given : List String}
  {s : Signature}

theorem mem_markers {p : String} (known : s ∈ signatures) (mem : p ∈ s.excludes) : p ∈ markers :=
  List.mem_dedup.mpr (List.mem_flatMap.mpr ⟨s, known, mem⟩)

theorem share_le_score (occur : ∀ p ∈ given, p.toList <:+: text) : s.share given ≤ s.score text := by
  refine div_le_div_of_nonneg_right (Nat.cast_le.mpr ?_) (Nat.cast_nonneg _)
  refine (List.monotone_filter_right _ fun p mem => ?_).length_le
  exact (occursIn_iff _ _).mpr (occur p (List.contains_iff_mem.mp mem))

/-- The markers that occur in a text are among those that the table was searched for. -/
theorem exists_eligible (secure : Secure t given) (occur : ∀ p ∈ given, p.toList <:+: text) :
    ∃ r ∈ signatures, Eligible t text r := by
  let more := markers.filter (occursIn ·.toList text)
  obtain ⟨r, known, absent, enough⟩ := secure more (List.mem_sublists.mpr List.filter_sublist)
  refine ⟨r, known, fun p mem inside => ?_, enough.trans (share_le_score fun p mem => ?_)⟩
  · have told : p ∈ more :=
      List.mem_filter.mpr ⟨mem_markers known mem, (occursIn_iff _ _).mpr inside⟩
    exact absent p mem (List.mem_append_right given told)
  · obtain mem | mem := List.mem_append.mp mem
    · exact occur p mem
    · exact (occursIn_iff _ _).mp (List.mem_filter.mp mem).2

theorem Secure.lower (h : Secure t₂ given) (lower : t₁.value ≤ t₂.value) : Secure t₁ given := by
  intro more mem
  obtain ⟨r, known, absent, enough⟩ := h more mem
  exact ⟨r, known, absent, lower.trans enough⟩

theorem mem_bars {p : String} :
    p ∈ s.bars t ↔ p ∈ s.excludes ∧ ¬ Secure t (p :: s.phrases) := by
  rw [Signature.bars, List.mem_filter, decide_eq_true_iff]

theorem bars_subset (lower : t₁.value ≤ t₂.value) : s.bars t₁ ⊆ s.bars t₂ := by
  intro p mem
  obtain ⟨excluded, loose⟩ := mem_bars.mp mem
  exact mem_bars.mpr ⟨excluded, fun secure => loose (secure.lower lower)⟩

private theorem bars_half : ∀ s ∈ signatures, s.bars .half = [] := by decide +kernel

theorem bars_of_le_half (known : s ∈ signatures) (low : t.value ≤ 1 / 2) : s.bars t = [] := by
  have lower : t.value ≤ Threshold.half.value := low
  rw [← List.subset_nil, ← bars_half s known]
  exact bars_subset lower

theorem phrases_length_le : ∀ s ∈ signatures, s.phrases.length ≤ 3 := by decide

/-- Above two thirds no phrase may be missing, since no signature has more than three. -/
theorem Eligible.whole (fit : Eligible t text s) (known : s ∈ signatures) (high : 2 / 3 < t.value) :
    s.Whole text := by
  have phrased := phrases_ne_nil s known
  rw [← Signature.score_eq_one_iff phrased]
  refine le_antisymm Signature.score_le_one ?_
  have some : 0 < s.phrases.length := List.length_pos_iff.mpr phrased
  have few := phrases_length_le s known
  have enough : 2 / 3 < (s.matched text : Rat) / s.phrases.length := high.trans_le fit.enough
  rw [div_lt_div_iff₀ (by decide) (Nat.cast_pos.mpr some)] at enough
  have more : 2 * s.phrases.length < s.matched text * 3 := by exact_mod_cast enough
  rw [Signature.score, one_le_div₀ (Nat.cast_pos.mpr some), Nat.cast_le]
  omega

/-- A signature of which all phrases occur leaves an eligible one, if nothing bars it. -/
theorem exists_eligible_of_whole (known : s ∈ signatures) (whole : s.Whole text)
    (free : ∀ p ∈ s.bars t, ¬ p.toList <:+: text) : ∃ r ∈ signatures, Eligible t text r := by
  by_cases ruled : ∃ p ∈ s.excludes, p.toList <:+: text
  · obtain ⟨p, mem, inside⟩ := ruled
    have secure : Secure t (p :: s.phrases) := by
      by_contra loose
      exact free p (mem_bars.mpr ⟨mem, loose⟩) inside
    exact exists_eligible secure (List.forall_mem_cons.mpr ⟨inside, whole⟩)
  · exact ⟨s, known, eligible_of_whole known whole fun p mem inside => ruled ⟨p, mem, inside⟩⟩

/-- What is eligible at one occurs in whole, and is eligible at every threshold. -/
theorem exists_whole (known : s ∈ signatures) (whole : s.Whole text)
    (free : ∀ p ∈ s.bars .one, ¬ p.toList <:+: text) :
    ∃ r ∈ signatures, Eligible t text r ∧ r.Whole text := by
  obtain ⟨r, known', fit⟩ := exists_eligible_of_whole known whole free
  have all : r.Whole text := fit.whole known' (by decide +kernel)
  exact ⟨r, known', eligible_of_whole known' all fit.allowed, all⟩

/-- Where some signature is eligible for a text without a header, the best one labels it. -/
theorem exists_label {e : ExpressionReader} (headless : header? data.toText = none)
    (eligible : ∃ r ∈ signatures, Eligible t (normalize data.toText) r) (scene : Scene σ) :
    ∃ r, Wins t (normalize data.toText) signatures r ∧
      ((classify e t data).run.run scene).1 = .ok r.key := by
  obtain ⟨r, wins, phrases⟩ := outcome_of_eligible eligible scene
  exact ⟨r, wins, labelled_of_headless headless phrases⟩

theorem unlabelled_of_unfit {e : ExpressionReader} (headless : header? data.toText = none)
    (unfit : ¬ ∃ r ∈ signatures, Eligible t (normalize data.toText) r) (scene : Scene σ) :
    Unlabelled ((classify e t data).run.run scene).1 :=
  unlabelled_of_headless headless
    (outcome_of_unfit (fun r known fit => unfit ⟨r, known, fit⟩) scene)

theorem Unlabelled.ne_ok {done : Except Failure String} (h : Unlabelled done) (label : String) :
    done ≠ .ok label := by
  rintro rfl
  obtain ⟨p, failed, -⟩ := h
  cases failed

theorem labelled_iff (e : ExpressionReader) (headless : header? data.toText = none)
    (scene : Scene σ) : (∃ label, ((classify e t data).run.run scene).1 = .ok label) ↔
      ∃ r ∈ signatures, Eligible t (normalize data.toText) r := by
  constructor
  · rintro ⟨label, told⟩
    by_contra unfit
    exact (unlabelled_of_unfit headless unfit scene).ne_ok label told
  · intro eligible
    obtain ⟨r, -, told⟩ := exists_label headless eligible scene
    exact ⟨r.key, told⟩

/-- Above two thirds, eligible is what occurs in whole and nothing rules out. -/
theorem eligible_iff_of_high (known : s ∈ signatures) (high : 2 / 3 < t.value) :
    Eligible t text s ↔ s.Whole text ∧ ∀ p ∈ s.excludes, ¬ p.toList <:+: text :=
  ⟨fun fit => ⟨fit.whole known high, fit.allowed⟩,
    fun ⟨whole, allowed⟩ => eligible_of_whole known whole allowed⟩

/-- A text without a header that holds all phrases of a signature has a label just when some signature
is eligible for it; above two thirds that is one of which all phrases occur and which none rules out.
It goes without a label only above one half, and then a phrase occurs that bars the signature. Where
no phrase would bar it even at one, the label is that of a signature of which all phrases occur. -/
theorem recognised_of_whole (e : ExpressionReader) (t : Threshold)
    (headless : header? data.toText = none) (known : s ∈ signatures)
    (whole : s.Whole (normalize data.toText)) (scene : Scene σ) :
    let text := normalize data.toText
    let done := ((classify e t data).run.run scene).1
    ((∃ label, done = .ok label) ∨ Unlabelled done) ∧
    ((∃ label, done = .ok label) ↔ ∃ r ∈ signatures, Eligible t text r) ∧
    (2 / 3 < t.value → ((∃ label, done = .ok label) ↔
      ∃ r ∈ signatures, r.Whole text ∧ ∀ p ∈ r.excludes, ¬ p.toList <:+: text)) ∧
    (Unlabelled done → 1 / 2 < t.value ∧ ∃ p ∈ s.bars t, p.toList <:+: text) ∧
    ((∀ p ∈ s.bars .one, ¬ p.toList <:+: text) →
      ∃ r, Wins t text signatures r ∧ done = .ok r.key ∧ r.Whole text) := by
  intro text done
  have told_iff : (∃ label, done = .ok label) ↔ ∃ r ∈ signatures, Eligible t text r :=
    labelled_iff e headless scene
  refine ⟨?_, told_iff, fun high => told_iff.trans (exists_congr fun r =>
    and_congr_right fun mem => eligible_iff_of_high mem high), fun failed => ?_,
    fun unbarred => ?_⟩
  · by_cases eligible : ∃ r ∈ signatures, Eligible t text r
    · exact .inl (told_iff.mpr eligible)
    · exact .inr (unlabelled_of_unfit headless eligible scene)
  · have barred : ∃ p ∈ s.bars t, p.toList <:+: text := by
      by_contra free
      obtain ⟨label, told⟩ := told_iff.mpr
        (exists_eligible_of_whole known whole fun p mem inside => free ⟨p, mem, inside⟩)
      exact failed.ne_ok label told
    refine ⟨?_, barred⟩
    -- Up to one half nothing bars a signature.
    by_contra low
    obtain ⟨p, mem, -⟩ := barred
    rw [bars_of_le_half known (not_lt.mp low)] at mem
    cases mem
  · obtain ⟨w, mem, fit, all⟩ := exists_whole known whole unbarred
    obtain ⟨r, wins, told⟩ := exists_label headless ⟨w, mem, fit⟩ scene
    exact ⟨r, wins, told, wins.whole mem fit all⟩

end

/-- A license text of the GPL, version 3, that names the Lesser GPL. -/
def instead : Bytes :=
  Bytes.ofString ("GNU General Public License\nVersion 3, 29 June 2007\n\n" ++
    "Use the GNU Lesser General Public License instead.")

theorem normalize_instead : normalize instead.toText =
    ["gnu general public license ", "version 3, 29 june 2007 ", "use the gnu lesser general ",
      "public license instead."].flatMap String.toList := by decide +kernel

theorem bars_general : general.bars .one = ["gnu affero general public license"] := by decide +kernel

/-- The name that rules out one signature completes another one, which labels the text. -/
theorem recognised_of_whole_instead :
    let text := normalize instead.toText
    header? instead.toText = none ∧ general ∈ signatures ∧ general.Whole text ∧
      (∃ p ∈ general.excludes, p.toList <:+: text) ∧
      (∀ p ∈ general.bars .one, ¬ p.toList <:+: text) ∧
      ((classify bareReader .one instead).run.run (⟨(), []⟩ : Scene Unit)).1 =
        .ok "LGPL-3.0-only" := by
  intro text
  have headless : header? instead.toText = none := by decide +kernel
  have whole : general.Whole text := by
    rw [show text = _ from normalize_instead]
    decide +kernel
  have ruled : ∃ p ∈ general.excludes, p.toList <:+: text := by
    rw [show text = _ from normalize_instead]
    decide +kernel
  have free : ∀ p ∈ general.bars .one, ¬ p.toList <:+: text := by
    rw [bars_general, show text = _ from normalize_instead]
    decide +kernel
  have only : ∀ s ∈ signatures, s.Whole text → (∀ p ∈ s.excludes, ¬ p.toList <:+: text) →
      s.key = "LGPL-3.0-only" := by
    rw [show text = _ from normalize_instead]
    decide +kernel
  obtain ⟨-, -, -, -, told⟩ :=
    recognised_of_whole bareReader .one headless general_mem whole (⟨(), []⟩ : Scene Unit)
  obtain ⟨r, wins, label, all⟩ := told free
  rw [only r wins.mem all wins.1.allowed] at label
  exact ⟨headless, general_mem, whole, ruled, free, label⟩

/-- The start and the end of the text of the GPL, version 2. -/
def secondVersion : List Char :=
  ["                    GNU GENERAL PUBLIC LICENSE\n",
    "                       Version 2, June 1991\n\n",
    "If this is what you want to do, ", "use the GNU Lesser General\n",
    "Public License instead of this License.\n"].flatMap String.toList

theorem normalize_secondVersion : normalize secondVersion =
    ["gnu general public license ", "version 2, june 1991 ", "if this is what you want to do, ",
      "use the gnu lesser general ", "public license instead of this license."].flatMap
      String.toList := by decide +kernel

/-- All phrases of the signature of the GPL, version 2, occur in its text. But the text ends with a
phrase that rules the signature out, and of every other one at most half of the phrases occur. -/
theorem secondVersion_unlabelled :
    let data : Bytes := Utf8.encode secondVersion
    header? data.toText = none ∧
      (∃ s ∈ signatures, s.key = "GPL-2.0-only" ∧ s.Whole (normalize data.toText)) ∧
      ∀ t : Threshold, 1 / 2 < t.value →
        Unlabelled ((classify bareReader t data).run.run (⟨(), []⟩ : Scene Unit)).1 := by
  intro data
  have text : Bytes.toText data = secondVersion := Utf8.decodeLossy_encode secondVersion
  have headless : header? data.toText = none := by
    rw [text]
    decide +kernel
  have whole : ∃ s ∈ signatures, s.key = "GPL-2.0-only" ∧ s.Whole (normalize data.toText) := by
    rw [text, normalize_secondVersion]
    decide +kernel
  have poor : ∀ s ∈ signatures, (∃ p ∈ s.excludes, p.toList <:+: normalize data.toText) ∨
      s.score (normalize data.toText) ≤ 1 / 2 := by
    rw [text, normalize_secondVersion]
    decide +kernel
  refine ⟨headless, whole, fun t high => ?_⟩
  -- Half of the phrases are too few above one half, and the others are ruled out.
  refine unlabelled_of_headless headless (outcome_of_unfit (fun s known fit => ?_) _)
  obtain ⟨p, mem, inside⟩ | low := poor s known
  · exact fit.allowed p mem inside
  · exact absurd (high.trans_le (fit.enough.trans low)) (lt_irrefl _)

end Attribution.License

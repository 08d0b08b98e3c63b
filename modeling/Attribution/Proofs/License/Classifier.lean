import Attribution.License.Classifier
import Attribution.Proofs.Text.Blank

/-!
How a license text fails to be labelled. It is documented to get a label or to come to a problem with
the classification, and it does, unless the reading of its header fails in another way than by telling
that it holds no expression. Such a way is a pair of parentheses with nothing in it. A header that is
told to hold no expression leaves the label to the text.
-/

namespace Attribution.License

open Text

variable {σ : Type}

/-- What labelling is documented to come to: a label, or a problem with the classification. -/
def Documented : Except Failure String → Prop
  | .ok _ => True
  | .error f => ∃ p, f = .problem p ∧ p.kind = .classification

theorem not_documented_fault (fault : Fault) : ¬ Documented (.error (.fault fault)) := by
  rintro ⟨p, problem, -⟩
  cases problem

private theorem headerName_eq : headerName = 's' :: headerName.tail := by decide +kernel

theorem not_blank_of_spells {c : Char} (spelled : spells 's' c = true) : isBlank c = false := by
  have either : c.toLower = 's' ∨ c = 'ſ' := by simpa [spells] using spelled
  obtain small | rfl := either
  · unfold Char.toLower at small
    split at small
    next capital =>
      have low : 65 ≤ c.toNat := capital.1
      have high : c.toNat ≤ 90 := capital.2
      simp only [isBlank, Bool.or_eq_false_iff, Bool.and_eq_false_iff, decide_eq_false_iff_not,
        beq_eq_false_iff_ne]
      omega
    · subst small
      decide
  · decide

/-- A text that has a header is not blank. -/
theorem trim_of_header? {s value : List Char} (header : header? s = some value) :
    (trim s).isEmpty = false := by
  suffices solid : ∃ c ∈ s, isBlank c = false by
    obtain ⟨c, mem, solid⟩ := solid
    exact List.isEmpty_eq_false_iff.mpr (List.ne_nil_of_mem (mem_trim mem solid))
  induction s with
  | nil => cases header
  | cons c rest ih =>
      unfold header? at header
      cases spelled : spells 's' c with
      | true => exact ⟨c, List.mem_cons_self, not_blank_of_spells spelled⟩
      | false =>
          have other : afterName? headerName (c :: rest) = none := by
            rw [headerName_eq, afterName?, spelled, if_neg Bool.false_ne_true]
          rw [other] at header
          obtain ⟨d, mem, solid⟩ := ih header
          exact ⟨d, List.mem_cons_of_mem c mem, solid⟩

theorem documented_classifyText (t : Threshold) (text : List Char) (scene : Scene σ) :
    Documented ((classifyText t text).run.run scene).1 := by
  unfold classifyText
  cases bestFit t (normalize text) with
  | none => exact ⟨_, rfl, rfl⟩
  | some fit => trivial

/-- What is logged before does not count. -/
theorem outcome_classifyText (t : Threshold) (text : List Char) (scene scene' : Scene σ) :
    ((classifyText t text).run.run scene).1 = ((classifyText t text).run.run scene').1 := by
  unfold classifyText
  cases bestFit t (normalize text) <;> rfl

theorem classify_blank (e : ExpressionReader) (t : Threshold) {data : Bytes}
    (blank : (trim data.toText).isEmpty = true) (scene : Scene σ) :
    Documented ((classify e t data).run.run scene).1 := by
  simp only [classify, blank, if_true]
  exact ⟨_, rfl, rfl⟩

/-- What labelling comes to where the text has a header. -/
theorem classify_header (e : ExpressionReader) (t : Threshold) {data : Bytes} {value : List Char}
    (header : header? data.toText = some value) (scene : Scene σ) :
    ((classify e t data).run.run scene).1 =
      match e value with
      | .ok (some label) => .ok label
      | .error (.accident fault) => .error (.fault fault)
      | .ok none | .error (.invalid _) => ((classifyText t data.toText).run.run scene).1 := by
  simp only [classify, trim_of_header? header, Bool.false_eq_true, if_false, fromHeader, header]
  cases e value with
  | ok label => cases label <;> rfl
  | error refusal =>
      cases refusal with
      | invalid message => exact outcome_classifyText t data.toText _ _
      | accident fault => rfl

theorem classify_headless (e : ExpressionReader) (t : Threshold) {data : Bytes}
    (header : header? data.toText = none) (scene : Scene σ) :
    Documented ((classify e t data).run.run scene).1 := by
  cases blank : (trim data.toText).isEmpty with
  | true => exact classify_blank e t blank scene
  | false =>
      simp only [classify, blank, Bool.false_eq_true, if_false, fromHeader, header]
      exact documented_classifyText t data.toText scene

theorem classify_accident {e : ExpressionReader} {data : Bytes} {value : List Char} {fault : Fault}
    (t : Threshold) (header : header? data.toText = some value)
    (failed : e value = .error (.accident fault)) (scene : Scene σ) :
    ((classify e t data).run.run scene).1 = .error (.fault fault) := by
  rw [classify_header e t header scene, failed]

theorem classify_invalid {e : ExpressionReader} {data : Bytes} {value : List Char}
    {message : String} (t : Threshold) (header : header? data.toText = some value)
    (refused : e value = .error (.invalid message)) (scene : Scene σ) :
    ((classify e t data).run.run scene).1 = ((classifyText t data.toText).run.run scene).1 := by
  rw [classify_header e t header scene, refused]

/-- Labelling comes to what is documented just when the reading of the header does. -/
theorem documented_iff (e : ExpressionReader) (t : Threshold) (data : Bytes) (scene : Scene σ) :
    Documented ((classify e t data).run.run scene).1 ↔
      ∀ value ∈ header? data.toText, ∀ fault, e value ≠ .error (.accident fault) := by
  constructor
  · intro sound value header fault failed
    rw [classify_accident t header failed] at sound
    exact not_documented_fault fault sound
  · intro sound
    cases header : header? data.toText with
    | none => exact classify_headless e t header scene
    | some value =>
        rw [classify_header e t header scene]
        -- Without a label from the header the phrases decide, and they come to what is documented.
        cases said : e value with
        | ok label =>
            cases label with
            | none => exact documented_classifyText t data.toText scene
            | some label => trivial
        | error refusal =>
            cases refusal with
            | invalid message => exact documented_classifyText t data.toText scene
            | accident fault => exact absurd said (sound value header fault)

/-- A pair of parentheses with nothing in it. -/
def EmptyPair (s : List Char) : Prop := ∃ gap, Blank gap ∧ s = '(' :: (gap ++ [')'])

namespace ExpressionReader

/-- How the reading of an empty pair of parentheses fails. -/
def emptyPair : Fault := .foreign "IndexError" "list index out of range"

/-- What is no expression is told to be none, unless an empty pair of parentheses is in it. -/
def Refuses (e : ExpressionReader) : Prop :=
  ∀ s fault, e s = .error (.accident fault) → fault = emptyPair ∧ ∃ p, EmptyPair p ∧ p <:+: s

/-- The reading of an empty pair of parentheses fails, and does not tell that it is no expression. -/
def FailsOnEmptyPair (e : ExpressionReader) : Prop :=
  ∀ s, EmptyPair s → e s = .error (.accident emptyPair)

end ExpressionReader

/-- A license text gets a label, or comes to a problem with the classification, unless the reading of
its header fails in another way than by telling that it holds no expression. That failure comes out
as it is, while a header that is told to hold no expression leaves the label to the text. Where only
empty pairs of parentheses make a reading fail so, they are to blame; where they do, a header that is
such a pair is enough. -/
theorem documented_of_classify (e : ExpressionReader) (t : Threshold) (data : Bytes)
    (scene : Scene σ) :
    let text := data.toText
    let done := ((classify e t data).run.run scene).1
    (Documented done ↔ ∀ value ∈ header? text, ∀ fault, e value ≠ .error (.accident fault)) ∧
    (∀ value ∈ header? text, ∀ fault, e value = .error (.accident fault) →
      done = .error (.fault fault)) ∧
    (∀ value ∈ header? text, ∀ message, e value = .error (.invalid message) →
      done = ((classifyText t text).run.run scene).1) ∧
    (e.Refuses → ¬ Documented done → done = .error (.fault ExpressionReader.emptyPair) ∧
      ∃ value ∈ header? text, ∃ p, EmptyPair p ∧ p <:+: value) ∧
    (e.FailsOnEmptyPair → ∀ value ∈ header? text, EmptyPair value →
      done = .error (.fault ExpressionReader.emptyPair)) := by
  intro text done
  have documented : Documented done ↔
      ∀ value ∈ header? text, ∀ fault, e value ≠ .error (.accident fault) :=
    documented_iff e t data scene
  refine ⟨documented, fun _ header _ failed => classify_accident t header failed scene,
    fun _ header _ refused => classify_invalid t header refused scene, fun refuses bad => ?_,
    fun fails value header pair => classify_accident t header (fails value pair) scene⟩
  rw [documented] at bad
  push Not at bad
  obtain ⟨value, header, fault, failed⟩ := bad
  obtain ⟨rfl, pair⟩ := refuses value fault failed
  exact ⟨classify_accident t header failed scene, value, header, pair⟩

/-- Whether an empty pair of parentheses is in a text. -/
def holdsEmptyPair : List Char → Bool
  | [] => false
  | c :: rest => (c = '(' && (rest.dropWhile isBlank).head? = some ')') || holdsEmptyPair rest

/-- Knows no license, and fails at empty pairs of parentheses. -/
def bareReader : ExpressionReader := fun s =>
  if holdsEmptyPair s then .error (.accident ExpressionReader.emptyPair)
  else .error (.invalid "Invalid expression")

theorem exists_emptyPair {s : List Char} (holds : holdsEmptyPair s = true) :
    ∃ p, EmptyPair p ∧ p <:+: s := by
  induction s with
  | nil => cases holds
  | cons c rest ih =>
      obtain here | later := Bool.or_eq_true_iff.mp holds
      · obtain ⟨opens, closes⟩ := Bool.and_eq_true_iff.mp here
        obtain rfl := of_decide_eq_true opens
        obtain ⟨after, tail⟩ := List.head?_eq_some_iff.mp (of_decide_eq_true closes)
        refine ⟨_, ⟨rest.takeWhile isBlank, fun d mem => List.mem_takeWhile_imp mem, rfl⟩, ?_⟩
        refine ⟨[], after, ?_⟩
        rw [List.nil_append, List.cons_append, List.append_assoc, List.singleton_append, ← tail,
          List.takeWhile_append_dropWhile]
      · obtain ⟨p, pair, inside⟩ := ih later
        exact ⟨p, pair, inside.trans (List.suffix_cons c rest).isInfix⟩

theorem holdsEmptyPair_of_emptyPair {s : List Char} (pair : EmptyPair s) :
    holdsEmptyPair s = true := by
  obtain ⟨gap, blank, rfl⟩ := pair
  have closes : ((gap ++ [')']).dropWhile isBlank).head? = some ')' := by
    rw [List.dropWhile_append_of_pos blank]
    rfl
  unfold holdsEmptyPair
  rw [closes]
  rfl

theorem refuses_bareReader : bareReader.Refuses := by
  intro s fault failed
  unfold bareReader at failed
  split at failed
  next holds => cases failed; exact ⟨rfl, exists_emptyPair holds⟩
  next => cases failed

theorem failsOnEmptyPair_bareReader : bareReader.FailsOnEmptyPair := fun _ pair =>
  if_pos (holdsEmptyPair_of_emptyPair pair)

/-- A license text of which the header is a pair of parentheses. -/
def parenthesized : Bytes := Bytes.ofString "SPDX-License-Identifier: ()"

/-- A header with nothing between its parentheses is not passed over. -/
theorem parenthesized_undocumented :
    let done := ((classify bareReader .default parenthesized).run.run (⟨(), []⟩ : Scene Unit)).1
    bareReader.Refuses ∧ bareReader.FailsOnEmptyPair ∧
      done = .error (.fault ExpressionReader.emptyPair) ∧ ¬ Documented done := by
  intro done
  have header : header? parenthesized.toText = some ['(', ')'] := by decide +kernel
  have failed : bareReader ['(', ')'] = .error (.accident ExpressionReader.emptyPair) :=
    failsOnEmptyPair_bareReader _ ⟨[], List.forall_mem_nil _, rfl⟩
  have stops : done = .error (.fault ExpressionReader.emptyPair) :=
    classify_accident .default header failed _
  exact ⟨refuses_bareReader, failsOnEmptyPair_bareReader, stops,
    stops ▸ not_documented_fault _⟩

end Attribution.License

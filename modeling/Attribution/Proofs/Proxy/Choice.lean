import Attribution.Proxy
import Mathlib.Data.List.DropRight

/-!
Which proxy a setting names: its first piece that is usable without the blanks around it and the slashes
at its end. This one is chosen, unless a piece before it says no more than that no proxy is wanted, with
slashes behind it.
-/

namespace Attribution.Proxy

open Text

variable {setting url : String} {s e : List Char}

/-! ### Slashes at the end -/

theorem withoutSlashes_append (s : List Char) (n : Nat) :
    withoutSlashes (s ++ List.replicate n '/') = withoutSlashes s := by
  induction n with
  | zero => rw [List.replicate_zero, List.append_nil]
  | succ n ih =>
      rw [List.replicate_succ', ← List.append_assoc]
      exact (List.rdropWhile_concat_pos _ _ _ rfl).trans ih

theorem exists_slashes (s : List Char) : ∃ n, s = withoutSlashes s ++ List.replicate n '/' := by
  have taken : ∀ c ∈ s.rtakeWhile (· == '/'), c = '/' := fun c hc =>
    beq_iff_eq.mp (List.mem_rtakeWhile_imp hc :)
  have whole : withoutSlashes s ++ s.rtakeWhile (· == '/') = s := List.rdropWhile_append_rtakeWhile
  rw [List.eq_replicate_of_mem taken] at whole
  exact ⟨_, whole.symm⟩

theorem getLast?_withoutSlashes (s : List Char) : (withoutSlashes s).getLast? ≠ some '/' := by
  intro last
  have some : withoutSlashes s ≠ [] := fun none => by rw [none] at last; cases last
  rw [List.getLast?_eq_getLast_of_ne_nil some] at last
  refine List.rdropWhile_last_not (· == '/') s some ?_
  exact beq_iff_eq.mpr (Option.some.inj last)

/-! ### What an entry says -/

/-- The entries that name no proxy. -/
def idle : List (List Char) := [[], "direct".toList, "off".toList]

theorem isNamed_iff : isNamed e ↔ e ∉ idle := by
  simp [isNamed, idle, and_assoc]

theorem withoutSlashes_idle : ∀ e ∈ idle, withoutSlashes e = e := by decide

/-- An entry that names no proxy, with slashes behind it. -/
def Padded (e : List Char) : Prop := ∃ word ∈ idle, ∃ n, e = word ++ List.replicate (n + 1) '/'

/-- Only the slashes keep a padded entry from naming no proxy. -/
theorem padded_iff : Padded e ↔ e ∉ idle ∧ withoutSlashes e ∈ idle := by
  constructor
  · rintro ⟨word, known, n, rfl⟩
    have bare : withoutSlashes (word ++ List.replicate (n + 1) '/') = word := by
      rw [withoutSlashes_append, withoutSlashes_idle word known]
    refine ⟨fun unpadded => ?_, bare.symm ▸ known⟩
    have same := congrArg List.length ((withoutSlashes_idle _ unpadded).symm.trans bare)
    rw [List.length_append, List.length_replicate] at same
    omega
  · rintro ⟨named, bare⟩
    obtain ⟨n, whole⟩ := exists_slashes e
    cases n with
    | zero =>
        rw [List.replicate_zero, List.append_nil] at whole
        exact absurd (whole ▸ bare) named
    | succ n => exact ⟨_, bare, n, whole⟩

/-! ### The choice -/

/-- What commas and bars divide a setting into. -/
def pieces (setting : String) : List (List Char) :=
  splitBy (fun c => c == ',' || c == '|') setting.toList

/-- A piece without the blanks around it and the slashes at its end. -/
def stripped (piece : List Char) : List Char := dropEndWhile (· == '/') (trim piece)

/-- The proxy that a setting is documented to choose: its first piece that is usable once stripped, and
the default one where there is none. -/
inductive Chosen (setting : String) : String → Prop
  | piece {before : List (List Char)} {p : List Char} {after : List (List Char)}
    (split : pieces setting = before ++ p :: after) (idles : ∀ b ∈ before, stripped b ∈ idle)
    (named : stripped p ∉ idle) : Chosen setting (String.ofList (stripped p))
  | default (idles : ∀ p ∈ pieces setting, stripped p ∈ idle) : Chosen setting defaultUrl

/-- The first piece that is more than idle is padded. -/
def Misleading (setting : String) : Prop :=
  ∃ before p after, pieces setting = before ++ p :: after ∧ (∀ b ∈ before, trim b ∈ idle) ∧
    Padded (trim p)

theorem Chosen.usable (chosen : Chosen setting url) : url.toList ∉ idle := by
  cases chosen with
  | piece split idles named => rwa [String.toList_ofList]
  | default idles => decide

theorem stripped_of_idle (h : trim s ∈ idle) : stripped s ∈ idle := by
  have same : stripped s = trim s := withoutSlashes_idle _ h
  rwa [same]

/-- The first piece that is more than idle is chosen, whatever the slashes at its end leave of it. -/
theorem choose_cases (setting : String) :
    ((∀ p ∈ pieces setting, trim p ∈ idle) ∧ choose setting = defaultUrl) ∨
      ∃ before p after, pieces setting = before ++ p :: after ∧ (∀ b ∈ before, trim b ∈ idle) ∧
        trim p ∉ idle ∧ choose setting = String.ofList (stripped p) := by
  have skipped {p : List Char} (h : ¬ isNamed (trim p) = true) : trim p ∈ idle := by
    rwa [isNamed_iff, not_not] at h
  have search : (entries setting).find? isNamed =
      ((pieces setting).find? (isNamed ∘ trim)).map trim := List.find?_map
  rw [choose, search]
  cases found : (pieces setting).find? (isNamed ∘ trim) with
  | none => exact .inl ⟨fun p hp => skipped (List.find?_eq_none.mp found p hp), rfl⟩
  | some p =>
      obtain ⟨named, before, after, split, idles⟩ := List.find?_eq_some_iff_append.mp found
      refine .inr ⟨before, p, after, split, fun b hb => skipped ?_, isNamed_iff.mp named, rfl⟩
      simpa using idles b hb

/-- Only one piece is the first that is more than idle. -/
theorem first_unique {before before' after after' : List (List Char)} {p p' : List Char}
    (same : before ++ p :: after = before' ++ p' :: after') (idles : ∀ b ∈ before, trim b ∈ idle)
    (idles' : ∀ b ∈ before', trim b ∈ idle) (hp : trim p ∉ idle) (hp' : trim p' ∉ idle) :
    p = p' := by
  have found {before after : List (List Char)} {p : List Char}
      (idles : ∀ b ∈ before, trim b ∈ idle) (hp : trim p ∉ idle) :
      (before ++ p :: after).find? (trim · ∉ idle) = some p := by
    refine List.find?_eq_some_iff_append.mpr ⟨by simpa using hp, before, after, rfl, fun b hb => ?_⟩
    simpa using idles b hb
  exact Option.some.inj ((found idles hp).symm.trans (same ▸ found idles' hp'))

/-- The proxy chosen never ends in a slash. It is the one that the setting is documented to choose,
exactly when it is usable at all, and it is not exactly when the first piece of the setting that is more
than idle is padded. -/
theorem chosen_of_choose (setting : String) :
    (choose setting).toList.getLast? ≠ some '/' ∧
    (Chosen setting (choose setting) ↔ (choose setting).toList ∉ idle) ∧
    (Chosen setting (choose setting) ↔ ¬ Misleading setting) := by
  obtain ⟨idles, result⟩ | ⟨before, p, after, split, idles, named, result⟩ := choose_cases setting
  · have chosen : Chosen setting (choose setting) :=
      result ▸ .default fun p hp => stripped_of_idle (idles p hp)
    refine ⟨by rw [result]; decide, iff_of_true chosen chosen.usable, iff_of_true chosen ?_⟩
    rintro ⟨before, p, after, split, -, padded⟩
    exact (padded_iff.mp padded).1 (idles p (split ▸ List.mem_append_right _ List.mem_cons_self))
  · have slashes : (choose setting).toList.getLast? ≠ some '/' := by
      rw [result, String.toList_ofList]
      exact getLast?_withoutSlashes (trim p)
    -- The first piece that is more than idle decides: its slashes may hide that it is not usable.
    by_cases bare : stripped p ∈ idle
    · have unusable : ¬ (choose setting).toList ∉ idle := by
        rw [result, String.toList_ofList]
        exact not_not_intro bare
      have other : ¬ Chosen setting (choose setting) := mt Chosen.usable unusable
      refine ⟨slashes, iff_of_false other unusable, iff_of_false other (not_not_intro ?_)⟩
      exact ⟨before, p, after, split, idles, padded_iff.mpr ⟨named, bare⟩⟩
    · have chosen : Chosen setting (choose setting) :=
        result ▸ .piece split (fun b hb => stripped_of_idle (idles b hb)) bare
      refine ⟨slashes, iff_of_true chosen chosen.usable, iff_of_true chosen ?_⟩
      rintro ⟨before', p', after', split', idles', padded⟩
      obtain ⟨named', bare'⟩ := padded_iff.mp padded
      obtain rfl := first_unique (split.symm.trans split') idles idles' named named'
      exact bare bare'

/-- Nothing is left of a setting of slashes. -/
theorem slash_unusable : choose "/" = "" ∧ ¬ Chosen "/" (choose "/") := by
  have nothing : choose "/" = "" := by decide
  exact ⟨nothing, fun chosen => chosen.usable (by rw [nothing]; decide)⟩

end Attribution.Proxy

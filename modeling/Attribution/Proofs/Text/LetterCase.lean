import Attribution.Proofs.Text.Blank
import Attribution.Text.LetterCase

/-!
A text and its lower case. Each character of an image is its own image, so a text in lower case
stays as it is, whatever is taken out of it: no capital sigma is left to look at its neighbours.

Where a text and its lower case differ, neither starts the other, even though one letter may become
two: a letter that changes has an image that starts with another letter. Only a capital sigma looks
at its neighbours, and they decide no more than the form of the small one.
-/

namespace Attribution.Text

open LetterCase

variable {s t : List Char} {c d : Char}

/-- Whether a run, moved by a distance, has no code point in common with another run. -/
def Run.avoids (run : Run) (shift : Int) (other : Run) : Bool :=
  (run.last + shift).toNat.blt other.first || other.last.blt (run.first + shift).toNat ||
    (List.range' run.first (run.last + 1 - run.first)).all fun n =>
      !(run.contains n && other.contains (n + shift).toNat)

theorem Run.bounds {run : Run} {n : Nat} (inside : run.contains n = true) :
    run.first ≤ n ∧ n ≤ run.last := by
  simp only [Run.contains, Bool.and_eq_true, decide_eq_true_eq] at inside
  exact inside.1

theorem Run.not_contains_of_avoids {run other : Run} {shift : Int} {n : Nat}
    (avoids : run.avoids shift other = true) (inside : run.contains n = true) :
    other.contains (n + shift).toNat = false := by
  refine Bool.eq_false_iff.mpr fun shared => ?_
  have here := Run.bounds inside
  have there := Run.bounds shared
  simp only [Run.avoids, Bool.or_eq_true, Nat.blt_eq] at avoids
  obtain (before | after) | apart := avoids
  · omega
  · omega
  · have clear := List.all_eq_true.mp apart n (List.mem_range'_1.mpr (by omega))
    rw [inside, shared] at clear
    cases clear

/-- A number that is no code point reads as the code point nought. -/
theorem ofNat_cases (n : Nat) : (Char.ofNat n).toNat = n ∨ Char.ofNat n = '\x00' := by
  unfold Char.ofNat
  by_cases valid : n.isValidChar
  · rw [dif_pos valid]
    exact .inl rfl
  · rw [dif_neg valid]
    exact .inr rfl

/-- A character is its own image, or its image is two letters, or a run lists it with the distance
to its image. -/
theorem lowerChar_image (c : Char) :
    lowerChar c = [c] ∨ (c = '\u0130' ∧ lowerChar c = ['i', '\u0307']) ∨
      ∃ e ∈ lowerRuns, e.1.contains c.toNat = true ∧
        lowerChar c = [Char.ofNat (c.toNat + e.2).toNat] := by
  unfold lowerChar
  split
  · split
    next capital =>
      obtain ⟨low, high⟩ := Bool.and_eq_true_iff.mp capital
      have bounds : 0x41 ≤ c.toNat ∧ c.toNat ≤ 0x5a :=
        ⟨of_decide_eq_true low, of_decide_eq_true high⟩
      refine .inr (.inr ⟨(⟨0x41, 0x5a, 1⟩, 32), List.mem_cons_self, ?_, rfl⟩)
      simp only [Run.contains, bounds, decide_true, Nat.mod_one, beq_self_eq_true, Bool.and_self]
    next => exact .inl rfl
  · split
    next two => exact .inr (.inl ⟨two, rfl⟩)
    next =>
      split
      next found =>
        have inside := List.find?_some found
        exact .inr (.inr ⟨_, List.mem_of_find?_eq_some found, inside, rfl⟩)
      next => exact .inl rfl

/-- A letter stays as it is, or its image starts with another one. -/
theorem lowerChar_cases (c : Char) :
    lowerChar c = [c] ∨ ∃ d more, lowerChar c = d :: more ∧ d ≠ c := by
  obtain same | ⟨rfl, image⟩ | ⟨e, -, -, image⟩ := lowerChar_image c
  · exact .inl same
  · exact .inr ⟨'i', _, image, by decide⟩
  · by_cases same : Char.ofNat (c.toNat + e.2).toNat = c
    · rw [same] at image
      exact .inl image
    · exact .inr ⟨_, [], image, same⟩

/-- The runs of the characters that are not their own images. -/
def changing : List Run := ⟨0x130, 0x130, 1⟩ :: lowerRuns.map (·.1)

theorem lowerChar_of_unlisted (unlisted : ∀ run ∈ changing, run.contains c.toNat = false) :
    lowerChar c = [c] := by
  obtain same | ⟨rfl, -⟩ | ⟨e, listed, inside, -⟩ := lowerChar_image c
  · exact same
  · exact absurd (unlisted _ List.mem_cons_self) (by decide)
  · rw [unlisted e.1 (List.mem_cons_of_mem _ (List.mem_map_of_mem listed))] at inside
    cases inside

private theorem images_unlisted :
    lowerRuns.all (fun e => changing.all (e.1.avoids e.2)) = true := by decide +kernel

/-- Each character of an image is its own image. -/
theorem lowerChar_of_mem (mem : d ∈ lowerChar c) : lowerChar d = [d] := by
  obtain same | ⟨-, image⟩ | ⟨e, listed, inside, image⟩ := lowerChar_image c
  · rw [same, List.mem_singleton] at mem
    rw [mem, same]
  · simp only [image, List.mem_cons, List.not_mem_nil, or_false] at mem
    obtain rfl | rfl := mem <;> decide +kernel
  · rw [image, List.mem_singleton] at mem
    obtain code | nought := ofNat_cases (c.toNat + e.2).toNat
    · refine lowerChar_of_unlisted fun run known => ?_
      have avoids := List.all_eq_true.mp (List.all_eq_true.mp images_unlisted e listed) run known
      rw [mem, code]
      exact Run.not_contains_of_avoids avoids inside
    · rw [mem, nought]
      decide

theorem lowerChar_of_mem_lowerAfter {cased : Bool} (mem : c ∈ lowerAfter cased s) :
    lowerChar c = [c] := by
  induction s generalizing cased with
  | nil => cases mem
  | cons d rest ih =>
      obtain here | later := List.mem_append.mp mem
      · by_cases sigma : d = 'Σ'
        · rw [if_pos sigma, List.mem_singleton] at here
          rw [here]
          split <;> decide +kernel
        · rw [if_neg sigma] at here
          exact lowerChar_of_mem here
      · exact ih later

/-- Each character of a text in lower case is its own image. -/
theorem lowerChar_of_mem_lower (mem : c ∈ lower s) : lowerChar c = [c] :=
  lowerChar_of_mem_lowerAfter mem

theorem ne_sigma_of_lowerChar (stays : lowerChar c = [c]) : c ≠ 'Σ' := by
  rintro rfl
  exact absurd stays (by decide +kernel)

theorem lowerAfter_eq_self_iff (cased : Bool) (s : List Char) :
    lowerAfter cased s = s ↔ ∀ c ∈ s, lowerChar c = [c] := by
  induction s generalizing cased with
  | nil => exact iff_of_true rfl (List.forall_mem_nil _)
  | cons c rest ih =>
      rw [lowerAfter, List.forall_mem_cons]
      by_cases sigma : c = 'Σ'
      · refine iff_of_false ?_ fun stay => ne_sigma_of_lowerChar stay.1 sigma
        rw [if_pos sigma, sigma]
        split <;> simp
      · rw [if_neg sigma]
        obtain stays | ⟨d, more, image, other⟩ := lowerChar_cases c
        · rw [stays, List.singleton_append, List.cons_inj_right, ih]
          exact (and_iff_right rfl).symm
        · rw [image]
          exact iff_of_false (fun same => other (List.cons.inj same).1)
            fun stay => other (List.cons.inj stay.1).1

/-- A text is its own lower case just when each of its characters is its own image. -/
theorem lower_eq_self_iff (s : List Char) : lower s = s ↔ ∀ c ∈ s, lowerChar c = [c] :=
  lowerAfter_eq_self_iff false s

/-- A text is left as it is, or no text starts both with it and with its lower case. -/
theorem lowerAfter_cases (cased : Bool) (s : List Char) :
    lowerAfter cased s = s ∨ ∀ t, s <+: t → ¬ lowerAfter cased s <+: t := by
  -- Up to the first letter that changes both are the same.
  induction s generalizing cased with
  | nil => exact .inl rfl
  | cons c rest ih =>
      have apart {d : Char} {more : List Char} (other : d ≠ c) :
          ∀ t, c :: rest <+: t → ¬ d :: more <+: t := by
        rintro _ ⟨u, rfl⟩ below
        exact other (List.cons_prefix_cons.mp below).1
      rw [lowerAfter]
      by_cases sigma : c = 'Σ'
      · rw [if_pos sigma]
        refine .inr (apart ?_)
        rw [sigma]
        split <;> decide
      · rw [if_neg sigma]
        obtain stays | ⟨d, more, image, other⟩ := lowerChar_cases c
        · rw [stays]
          refine (ih (if isIgnored c then cased else isCased c)).imp (congrArg (c :: ·)) ?_
          rintro distinct _ ⟨u, rfl⟩ below
          exact distinct (rest ++ u) (List.prefix_append rest u) (List.cons_prefix_cons.mp below).2
        · rw [image]
          exact .inr (apart other)

/-- A text that has capitals and its lower case do not start the same text. -/
theorem not_lower_prefix (changed : lower s ≠ s) (start : s <+: t) : ¬ lower s <+: t :=
  (lowerAfter_cases false s).resolve_left changed t start

/-- A text of small letters in ASCII is its own lower case. -/
theorem lower_eq_self (h : ∀ c ∈ s, c.toNat < 0x80 ∧ isUpper c = false) : lower s = s := by
  refine (lower_eq_self_iff s).mpr fun c mem => ?_
  obtain ⟨ascii, small⟩ := h c mem
  rw [isUpper, if_pos ascii] at small
  rw [lowerChar, if_pos ascii, small]
  rfl

/-- A letter, a final small sigma in its usual form. -/
def plainSigma (c : Char) : Char := if c = 'ς' then 'σ' else c

theorem plainSigma_space (c : Char) : plainSigma c = ' ' ↔ c = ' ' := by
  unfold plainSigma
  split
  next final =>
    subst final
    decide
  next => rfl

theorem isBlank_plainSigma (c : Char) : isBlank (plainSigma c) = isBlank c := by
  unfold plainSigma
  split
  next final =>
    subst final
    decide
  next => rfl

/-- The lower-case image of a letter up to the form of a small sigma. -/
def small (c : Char) : List Char :=
  (if c = 'Σ' then ['σ'] else lowerChar c).map plainSigma

/-- Up to the form of a small sigma the image of a text is put together from those of its letters,
whatever their neighbours are. -/
theorem lowerAfter_map (cased : Bool) (s : List Char) :
    (lowerAfter cased s).map plainSigma = s.flatMap small := by
  induction s generalizing cased with
  | nil => rfl
  | cons c s ih =>
      rw [lowerAfter, List.map_append, List.flatMap_cons, ih, small]
      by_cases sigma : c = 'Σ'
      · rw [if_pos sigma, if_pos sigma]
        split <;> rfl
      · rw [if_neg sigma, if_neg sigma]

theorem lower_map (s : List Char) : (lower s).map plainSigma = s.flatMap small :=
  lowerAfter_map false s

private theorem small_blankCodes : ∀ n ∈ blankCodes, small (Char.ofNat n) = [Char.ofNat n] := by
  decide +kernel

theorem small_blank {c : Char} (blank : isBlank c = true) : small c = [c] := by
  have known := small_blankCodes c.toNat (mem_blankCodes blank)
  rwa [Char.ofNat_toNat] at known

private theorem small_capitals : ∀ n ∈ List.range' 0x41 26,
    small (Char.ofNat n).toLower = small (Char.ofNat n) := by decide +kernel

/-- The case of a letter from A to Z does not show in its image. -/
theorem small_toLower (c : Char) : small c.toLower = small c := by
  by_cases capital : 0x41 ≤ c.toNat ∧ c.toNat < 0x5b
  · have known := small_capitals c.toNat (List.mem_range'_1.mpr (by omega))
    rwa [Char.ofNat_toNat] at known
  · unfold Char.toLower
    split
    next here =>
      have low : 65 ≤ c.toNat := here.1
      have high : c.toNat ≤ 90 := here.2
      omega
    next => rfl

end Attribution.Text

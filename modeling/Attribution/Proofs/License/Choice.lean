import Attribution.Proofs.License.Classifier
import Mathlib.Data.List.Induction
import Mathlib.Data.Prod.Lex
import Mathlib.Data.Rat.Cast.Order

/-!
Which signature labels a text. Of those that fit well enough it is the one with the greatest share
of its phrases in the text, then the one with the most, then the first. A lower threshold lets in
only signatures that fit worse than each one that was fit before, so it does not change a label.
-/

namespace Attribution.License

open Text

namespace Signature

/-- How much a text speaks for a signature: by the share of the phrases in it, then by their
number. -/
def weight (s : Signature) (text : List Char) : Rat ×ₗ Nat := toLex (s.score text, s.matched text)

/-- All phrases of a signature occur in a text. -/
def Whole (s : Signature) (text : List Char) : Prop := ∀ p ∈ s.phrases, p.toList <:+: text

instance (s : Signature) (text : List Char) : Decidable (s.Whole text) :=
  inferInstanceAs (Decidable (∀ p ∈ s.phrases, p.toList <:+: text))

/-- The fit of a signature to a text. -/
def fit (s : Signature) (text : List Char) : Fit := ⟨s.score text, s.matched text, s.key⟩

variable {s r : Signature} {text : List Char}

theorem isExcluded_iff : s.isExcluded text = true ↔ ∃ p ∈ s.excludes, p.toList <:+: text := by
  simp only [isExcluded, List.any_eq_true, occursIn_iff]

theorem fit_betters_iff :
    (s.fit text).betters (r.fit text) = true ↔ r.weight text < s.weight text := by
  rw [weight, weight, Prod.Lex.toLex_lt_toLex, Fit.betters, Bool.or_eq_true, Bool.and_eq_true,
    beq_iff_eq]
  exact or_congr decide_eq_true_iff (and_congr_right fun _ => decide_eq_true_iff)

theorem score_le_one : s.score text ≤ 1 := by
  refine div_le_one_of_le₀ ?_ (Nat.cast_nonneg _)
  exact Nat.cast_le.mpr (List.length_filter_le _ _)

theorem score_eq_one_iff (phrased : s.phrases ≠ []) : s.score text = 1 ↔ s.Whole text := by
  have some : (s.phrases.length : Rat) ≠ 0 :=
    Nat.cast_ne_zero.mpr (mt List.length_eq_zero_iff.mp phrased)
  rw [score, div_eq_one_iff_eq some, Nat.cast_inj, matched, List.length_filter_eq_length_iff]
  simp only [occursIn_iff, Whole]

end Signature

/-- A signature that may label a text: nothing in the text rules the license out, and at least the
wanted share of the phrases occurs in it. -/
structure Eligible (t : Threshold) (text : List Char) (s : Signature) : Prop where
  allowed : ∀ p ∈ s.excludes, ¬ p.toList <:+: text
  enough : t.value ≤ s.score text

/-- The first of the eligible signatures of greatest weight. -/
def Wins (t : Threshold) (text : List Char) (table : List Signature) (s : Signature) : Prop :=
  Eligible t text s ∧ ∃ before after, table = before ++ s :: after ∧
    (∀ r ∈ before, Eligible t text r → r.weight text < s.weight text) ∧
    ∀ r ∈ after, Eligible t text r → r.weight text ≤ s.weight text

section

variable {t t₁ t₂ : Threshold} {text : List Char} {table : List Signature} {s r : Signature}
  {best : Option Fit}

theorem eligible_iff : Eligible t text s ↔
    s.isExcluded text = false ∧ ¬ (s.fit text).score < t.value := by
  rw [← Bool.not_eq_true, Signature.isExcluded_iff, not_lt]
  exact ⟨fun ⟨allowed, enough⟩ => ⟨fun ⟨p, mem, occurs⟩ => allowed p mem occurs, enough⟩,
    fun ⟨allowed, enough⟩ => ⟨fun p mem occurs => allowed ⟨p, mem, occurs⟩, enough⟩⟩

instance : DecidablePred (Eligible t text) := fun _ => decidable_of_iff' _ eligible_iff

theorem consider_of_not_eligible (unfit : ¬ Eligible t text s) : consider t text best s = best := by
  rw [eligible_iff, not_and_not_right] at unfit
  unfold consider
  cases excluded : s.isExcluded text with
  | true => rfl
  | false => exact (if_neg Bool.false_ne_true).trans (if_pos (unfit excluded))

theorem consider_none (fit : Eligible t text s) : consider t text none s = some (s.fit text) := by
  obtain ⟨allowed, enough⟩ := eligible_iff.mp fit
  rw [consider, allowed, if_neg Bool.false_ne_true]
  exact if_neg enough

theorem consider_some (fit : Eligible t text s) : consider t text (some (r.fit text)) s =
    if r.weight text < s.weight text then some (s.fit text) else some (r.fit text) := by
  obtain ⟨allowed, enough⟩ := eligible_iff.mp fit
  rw [consider, allowed, if_neg Bool.false_ne_true]
  refine (if_neg enough).trans ?_
  simp only [← Signature.fit_betters_iff]
  rfl

theorem Wins.mem (h : Wins t text table s) : s ∈ table := by
  obtain ⟨-, before, after, rfl, -, -⟩ := h
  exact List.mem_append_right before List.mem_cons_self

theorem Wins.le (h : Wins t text table s) (mem : r ∈ table) (fit : Eligible t text r) :
    r.weight text ≤ s.weight text := by
  obtain ⟨-, before, after, rfl, ahead, behind⟩ := h
  obtain mem | mem := List.mem_append.mp mem
  · exact (ahead r mem fit).le
  · obtain rfl | mem := List.mem_cons.mp mem
    · exact le_rfl
    · exact behind r mem fit

/-- A further signature that weighs no more leaves the winner as it is. -/
theorem Wins.keep (h : Wins t text table s)
    (weak : Eligible t text r → r.weight text ≤ s.weight text) : Wins t text (table ++ [r]) s := by
  obtain ⟨fit, before, after, rfl, ahead, behind⟩ := h
  refine ⟨fit, before, after ++ [r], by rw [List.append_assoc, List.cons_append], ahead, ?_⟩
  intro q mem
  obtain mem | mem := List.mem_append.mp mem
  · exact behind q mem
  · obtain rfl := List.mem_singleton.mp mem
    exact weak

/-- A further signature that weighs more than all eligible ones wins. -/
theorem Wins.last (fit : Eligible t text s)
    (strong : ∀ r ∈ table, Eligible t text r → r.weight text < s.weight text) :
    Wins t text (table ++ [s]) s :=
  ⟨fit, table, [], rfl, strong, fun _ mem => absurd mem List.not_mem_nil⟩

/-- The best fit is that of the winner, and there is none where nothing is eligible. -/
theorem foldl_consider (t : Threshold) (text : List Char) (table : List Signature) :
    (table.foldl (consider t text) none = none ∧ ∀ s ∈ table, ¬ Eligible t text s) ∨
      ∃ s, table.foldl (consider t text) none = some (s.fit text) ∧ Wins t text table s := by
  induction table using List.reverseRecOn with
  | nil => exact .inl ⟨rfl, fun _ mem => absurd mem List.not_mem_nil⟩
  | append_singleton table s ih =>
      rw [List.foldl_append, List.foldl_cons, List.foldl_nil]
      by_cases fit : Eligible t text s
      · obtain ⟨nothing, unfit⟩ | ⟨r, best, wins⟩ := ih
        · rw [nothing, consider_none fit]
          exact .inr ⟨s, rfl, .last fit fun r mem fit => absurd fit (unfit r mem)⟩
        · rw [best, consider_some fit]
          by_cases more : r.weight text < s.weight text
          · rw [if_pos more]
            exact .inr ⟨s, rfl, .last fit fun q mem fit => (wins.le mem fit).trans_lt more⟩
          · rw [if_neg more]
            exact .inr ⟨r, rfl, wins.keep fun _ => not_lt.mp more⟩
      · rw [consider_of_not_eligible fit]
        refine ih.imp ?_ fun ⟨r, best, wins⟩ => ⟨r, best, wins.keep fun now => absurd now fit⟩
        rintro ⟨nothing, unfit⟩
        refine ⟨nothing, fun r mem => ?_⟩
        obtain mem | mem := List.mem_append.mp mem
        · exact unfit r mem
        · exact List.mem_singleton.mp mem ▸ fit

/-- Of two winners neither stands before the other. -/
theorem Wins.not_before {before after : List Signature} (h : Wins t text (before ++ s :: after) s)
    (first : ∀ r ∈ before, Eligible t text r → r.weight text < s.weight text)
    (other : Wins t text (before ++ s :: after) r) : r ∉ before := fun mem =>
  absurd (first r mem other.1) (not_lt.mpr (other.le h.mem h.1))

theorem Wins.unique (h : Wins t text table s) (h' : Wins t text table r) : s = r := by
  obtain ⟨-, before, after, split, ahead, -⟩ := id h
  obtain ⟨-, before', after', split', ahead', -⟩ := id h'
  have early := Wins.not_before (split ▸ h) ahead (split ▸ h')
  have early' := Wins.not_before (split' ▸ h') ahead' (split' ▸ h)
  obtain ⟨more, same, rest⟩ | ⟨more, same, rest⟩ :=
    List.append_eq_append_iff.mp (split.symm.trans split')
  · cases more with
    | nil => exact (List.cons.inj rest).1
    | cons q more =>
        obtain rfl := (List.cons.inj rest).1
        exact absurd (same ▸ List.mem_append_right before List.mem_cons_self) early'
  · cases more with
    | nil => exact (List.cons.inj rest).1.symm
    | cons q more =>
        obtain rfl := (List.cons.inj rest).1
        exact absurd (same ▸ List.mem_append_right before' List.mem_cons_self) early

/-- The winner stays the winner at a lower threshold: what becomes eligible has a smaller share. -/
theorem Wins.lower (h : Wins t₂ text table s) (lower : t₁.value ≤ t₂.value) :
    Wins t₁ text table s := by
  obtain ⟨fit, before, after, rfl, ahead, behind⟩ := h
  have less (r : Signature) (unfit : ¬ Eligible t₂ text r) (now : Eligible t₁ text r) :
      r.weight text < s.weight text := by
    have short : r.score text < t₂.value := not_le.mp fun enough => unfit ⟨now.allowed, enough⟩
    exact Prod.Lex.toLex_lt_toLex.mpr (.inl (short.trans_le fit.enough))
  refine ⟨⟨fit.allowed, lower.trans fit.enough⟩, before, after, rfl, fun r mem now => ?_,
    fun r mem now => ?_⟩
  · by_cases was : Eligible t₂ text r
    · exact ahead r mem was
    · exact less r was now
  · by_cases was : Eligible t₂ text r
    · exact behind r mem was
    · exact (less r was now).le

end

end Attribution.License

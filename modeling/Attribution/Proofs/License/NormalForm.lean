import Attribution.License.Signature
import Attribution.Proofs.Text.LetterCase

/-!
The normal form of license texts. A text in normal form is in lower case, has none of the quotes
that are dropped, and no blanks but single spaces between its words. Normalization leads to such a
text from every text, and it leaves just these texts as they are.
-/

namespace Attribution.License

open Text

/-- A text in lower case, without quotes, with one space between words and none around. -/
structure Normal (s : List Char) : Prop where
  small : lower s = s
  unquoted : ∀ c ∈ s, isDroppedQuote c = false
  squeezed : Squeezed s
  trimmed : Trimmed s

variable {s : List Char} {c : Char}

/-- What stands in a normalized text is a space, or it is of the text's lower case and no quote. -/
theorem mem_normalize (mem : c ∈ normalize s) :
    c = ' ' ∨ (c ∈ lower s ∧ isDroppedQuote c = false) := by
  obtain space | kept := mem_squeeze ((trim_isInfix _).subset mem)
  · exact .inl space
  · obtain ⟨here, unquoted⟩ := List.mem_filter.mp kept
    exact .inr ⟨here, by simpa using unquoted⟩

theorem normal_normalize (s : List Char) : Normal (normalize s) where
  small := by
    -- The later steps change the neighbours of a letter, but no letter is left that looks at them.
    refine (lower_eq_self_iff _).mpr fun c mem => ?_
    obtain rfl | ⟨here, -⟩ := mem_normalize mem
    · decide
    · exact lowerChar_of_mem_lower here
  unquoted c mem := by
    obtain rfl | ⟨-, unquoted⟩ := mem_normalize mem
    · decide
    · exact unquoted
  squeezed := (squeezed_squeeze _).of_isInfix (trim_isInfix _)
  trimmed := trimmed_trim _

theorem normalize_of_normal (h : Normal s) : normalize s = s := by
  have kept : s.filter (!isDroppedQuote ·) = s := by
    refine List.filter_eq_self.mpr fun c mem => ?_
    rw [h.unquoted c mem]
    rfl
  rw [normalize, h.small, kept, squeeze_of_squeezed h.squeezed, trim_of_trimmed h.trimmed]

/-- Normalization is a projection onto the texts in normal form: it leads to one of them from every
text, a second time it changes nothing, and it leaves just these texts as they are. -/
theorem projection_of_normalize (s : List Char) :
    Normal (normalize s) ∧ normalize (normalize s) = normalize s ∧
      (normalize s = s ↔ Normal s) := by
  have normal := normal_normalize s
  refine ⟨normal, normalize_of_normal normal, ?_, normalize_of_normal⟩
  intro same
  rwa [same] at normal

/-- The quote ends a word, whose sigma keeps its final form where the quote is gone. -/
example : normalize ['Ο', 'Σ', '"', 'Ο'] = ['ο', 'ς', 'ο'] ∧
    normalize ['ο', 'ς', 'ο'] = ['ο', 'ς', 'ο'] ∧ normalize ['Ο', 'Σ', 'Ο'] = ['ο', 'σ', 'ο'] := by
  decide +kernel

end Attribution.License

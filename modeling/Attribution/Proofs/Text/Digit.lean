import Attribution.Number.Reading
import Attribution.Text.Digit

/-!
When a text of digits writes a number: each of its digits has a place value. Those of ASCII write the
number that they are read as everywhere else.
-/

namespace Attribution.Text

/-- A text writes a number unless one of its characters has no place value. -/
theorem decimal?_eq_none_iff {s : List Char} :
    decimal? s = none ↔ ∃ c ∈ s, decimalDigit? c = none := by
  unfold decimal?
  generalize (0 : Nat) = n
  induction s generalizing n with
  | nil => simp
  | cons c s ih =>
      rw [List.foldlM_cons]
      simp only [List.mem_cons, exists_eq_or_imp]
      cases decimalDigit? c with
      | none => simp
      | some d => simpa using ih (n * 10 + d)

theorem decimalDigit?_of_isDigit {c : Char} (ascii : c.isDigit) :
    decimalDigit? c = some (c.toNat - '0'.toNat) := by
  have range : (0x30 ≤ c.toNat && c.toNat ≤ 0x30 + 9) = true := by
    rw [Char.isDigit, Bool.and_eq_true, decide_eq_true_eq, decide_eq_true_eq] at ascii
    rw [Bool.and_eq_true, decide_eq_true_eq, decide_eq_true_eq]
    exact ascii
  have found : decimalZeros.find? (fun z => z ≤ c.toNat && c.toNat ≤ z + 9) = some 0x30 :=
    List.find?_cons_of_pos range
  rw [decimalDigit?, found]
  rfl

theorem isDigits_of_ascii {s : List Char} (some : s ≠ []) (ascii : s.all Char.isDigit) :
    isDigits s := by
  have each : s.all isDigit := by
    rw [List.all_eq_true] at ascii ⊢
    intro c hc
    rw [isDigit, decimalDigit?_of_isDigit (ascii c hc)]
    rfl
  rw [isDigits, each]
  cases s with
  | nil => exact absurd rfl some
  | cons c s => rfl

theorem decimal?_of_ascii {s : List Char} (ascii : s.all Char.isDigit) :
    decimal? s = some (Number.ofDigits s) := by
  unfold decimal? Number.ofDigits
  generalize (0 : Nat) = n
  induction s generalizing n with
  | nil => rfl
  | cons c s ih =>
      obtain ⟨first, rest⟩ := Bool.and_eq_true_iff.mp ascii
      rw [List.foldlM_cons, decimalDigit?_of_isDigit first]
      exact ih rest _

end Attribution.Text

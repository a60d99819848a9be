import SourceReport.Text.Decimal
import SourceReport.Text.Digits

namespace SourceReport.Text

theorem digitValue?_digitChar : ∀ d < 16, digitValue? 16 d.digitChar = some d := by decide

theorem digitValue?_ten_digitChar : ∀ d < 10, digitValue? 10 d.digitChar = some d := by decide

theorem digitChar_ne_zero : ∀ d < 10, 0 < d → d.digitChar ≠ '0' := by decide

theorem ofDigits_toDigits (n : Nat) : ofDigits 10 (Nat.toDigits 10 n) = n := by
  induction n using Nat.strongRecOn with
  | ind n ih =>
    by_cases hn : n < 10
    · rw [Nat.toDigits_of_lt_base hn, ofDigits, List.foldl_cons, List.foldl_nil,
        digitValue?_ten_digitChar n hn, Option.getD_some]
      omega
    · rw [Nat.toDigits_of_base_le (by decide) (by omega), ofDigits_append_singleton,
        ih (n / 10) (by omega), digitValue?_ten_digitChar (n % 10) (by omega), Option.getD_some]
      omega

theorem exists_head_toDigits {n : Nat} (h : 0 < n) :
    ∃ c cs, Nat.toDigits 10 n = c :: cs ∧ c ≠ '0' := by
  induction n using Nat.strongRecOn with
  | ind n ih =>
    by_cases hn : n < 10
    · exact ⟨_, _, Nat.toDigits_of_lt_base hn, digitChar_ne_zero n hn h⟩
    · obtain ⟨c, cs, hc, hne⟩ := ih (n / 10) (by omega) (by omega)
      exact ⟨c, cs ++ [(n % 10).digitChar],
        by rw [Nat.toDigits_of_base_le (by decide) (by omega), hc, List.cons_append], hne⟩

end SourceReport.Text

import SourceReport.Json.Printer
import SourceReport.Json.Reader
import SourceReport.Proofs.Text.Decimals

namespace SourceReport.Json
open Text

theorem skipSpace_append {blank : List Char} (h : ∀ c ∈ blank, isSpace c = true)
    (rest : List Char) : skipSpace (blank ++ rest) = skipSpace rest :=
  List.dropWhile_append_of_pos h

theorem skipSpace_cons {c : Char} (h : isSpace c = false) (rest : List Char) :
    skipSpace (c :: rest) = c :: rest := by
  simp [skipSpace, h]

/-- A text that does not go on with a number. -/
def Delimits : List Char → Prop
  | [] => True
  | c :: _ => c.isDigit = false ∧ c ≠ '.' ∧ c ≠ 'e' ∧ c ≠ 'E'

theorem delimits_of_isSpace {c : Char} (h : isSpace c = true) (rest : List Char) :
    Delimits (c :: rest) := by
  simp only [isSpace, Bool.or_eq_true, beq_iff_eq] at h
  rcases h with ((rfl | rfl) | rfl) | rfl <;> exact ⟨by decide, by decide, by decide, by decide⟩

theorem delimits_append {blank rest : List Char} (hb : ∀ c ∈ blank, isSpace c = true)
    (hr : Delimits rest) : Delimits (blank ++ rest) := by
  cases blank with
  | nil => exact hr
  | cons c blank => exact delimits_of_isSpace (hb c List.mem_cons_self) _

theorem delimits_of_mem {c : Char} (h : c ∈ [',', ']', '\x7d']) (rest : List Char) :
    Delimits (c :: rest) := by
  simp only [List.mem_cons, List.not_mem_nil, or_false] at h
  rcases h with rfl | rfl | rfl <;> exact ⟨by decide, by decide, by decide, by decide⟩

theorem spanDigits_append {digits rest : List Char} (hd : ∀ c ∈ digits, c.isDigit = true)
    (hr : Delimits rest) : spanDigits (digits ++ rest) = (digits, rest) := by
  unfold spanDigits
  rw [List.takeWhile_append_of_pos hd, List.dropWhile_append_of_pos hd]
  cases rest with
  | nil => simp
  | cons c rest => simp [hr.1]

theorem spanFraction_of_delimits {rest : List Char} (hr : Delimits rest) :
    spanFraction rest = ([], rest) := by
  unfold spanFraction
  split
  · exact absurd rfl hr.2.1
  · rfl

theorem spanExponent_of_delimits {rest : List Char} (hr : Delimits rest) :
    spanExponent rest = ([], rest) := by
  cases rest with
  | nil => rfl
  | cons c rest =>
    obtain ⟨-, -, he, hE⟩ := hr
    simp [spanExponent, he, hE]

theorem isDigit_of_mem_toDigits {n : Nat} : ∀ c ∈ Nat.toDigits 10 n, c.isDigit = true :=
  fun _ => Nat.isDigit_of_mem_toDigits (by decide) (by decide)

theorem spanInteger?_toDigits (n : Nat) {rest : List Char} (hr : Delimits rest) :
    spanInteger? (Nat.toDigits 10 n ++ rest) = some (Nat.toDigits 10 n, rest) := by
  rcases Nat.eq_zero_or_pos n with rfl | hn
  · rfl
  · obtain ⟨c, cs, hc, hne⟩ := exists_head_toDigits hn
    have hspan := spanDigits_append (isDigit_of_mem_toDigits (n := n)) hr
    have hdigit := isDigit_of_mem_toDigits (n := n) c (by rw [hc]; exact List.mem_cons_self)
    rw [hc, List.cons_append] at hspan ⊢
    unfold spanInteger?
    split
    · rename_i heq
      exact absurd (List.cons.inj heq).1 hne
    · rename_i heq
      obtain ⟨rfl, rfl⟩ := List.cons.inj heq
      rw [if_pos hdigit, hspan]
    · rename_i heq
      cases heq

theorem readUnsigned?_toDigits (negative : Bool) (n : Nat) {rest : List Char}
    (hr : Delimits rest) : readUnsigned? negative (Nat.toDigits 10 n ++ rest) =
      some (num (if negative then -n else n), rest) := by
  unfold readUnsigned?
  rw [spanInteger?_toDigits n hr]
  simp [spanFraction_of_delimits hr, spanExponent_of_delimits hr, ofDigits_toDigits]

theorem exists_digit_toDigits (n : Nat) :
    ∃ c cs, Nat.toDigits 10 n = c :: cs ∧ c.isDigit = true := by
  obtain ⟨c, cs, hc⟩ := List.exists_cons_of_ne_nil (Nat.toDigits_ne_nil (n := n) (b := 10))
  exact ⟨c, cs, hc, isDigit_of_mem_toDigits c (by rw [hc]; exact List.mem_cons_self)⟩

theorem exists_head_decimal (n : Int) :
    ∃ c cs, decimal n = c :: cs ∧ (c.isDigit = true ∨ c = '-') := by
  cases n with
  | ofNat n =>
    obtain ⟨c, cs, hc, hdigit⟩ := exists_digit_toDigits n
    exact ⟨c, cs, hc, Or.inl hdigit⟩
  | negSucc n => exact ⟨_, _, rfl, Or.inr rfl⟩

theorem readAtom?_of_isDigit {c : Char} (h : c.isDigit = true) (s : List Char) :
    readAtom? (c :: s) = readUnsigned? false (c :: s) ∧
      readAtom? ('-' :: c :: s) = readUnsigned? true (c :: s) := by
  have hne : ∀ d, d.isDigit = false → c ≠ d := by
    intro d hd he
    rw [← he, h] at hd
    cases hd
  constructor
  · rw [readAtom?]
    all_goals
      intro rest heq
      exact hne _ (by decide) (List.cons.inj heq).1
  · rw [readAtom?]
    intro rest heq
    exact hne _ (by decide) (List.cons.inj heq).1

theorem readAtom?_decimal (n : Int) {rest : List Char} (hr : Delimits rest) :
    readAtom? (decimal n ++ rest) = some (num n, rest) := by
  cases n with
  | ofNat n =>
    have hread := readUnsigned?_toDigits false n hr
    obtain ⟨c, cs, hc, hdigit⟩ := exists_digit_toDigits n
    rw [decimal, hc, List.cons_append, (readAtom?_of_isDigit hdigit _).1]
    rw [hc, List.cons_append] at hread
    exact hread
  | negSucc n =>
    have hread := readUnsigned?_toDigits true (n + 1) hr
    obtain ⟨c, cs, hc, hdigit⟩ := exists_digit_toDigits (n + 1)
    rw [decimal, hc, List.cons_append, List.cons_append, (readAtom?_of_isDigit hdigit _).2]
    rw [hc, List.cons_append] at hread
    exact hread

theorem hexDigits_control : ∀ n < 0x20,
    hexDigits 4 n = ['0', '0', (n / 16).digitChar, (n % 16).digitChar] := by decide

theorem readHex?_control {n : Nat} (h : n < 0x20) (rest : List Char) :
    readHex? (hexDigits 4 n ++ rest) = some (n, rest) := by
  have hzero : digitValue? 16 '0' = some 0 := by decide
  rw [hexDigits_control n h]
  simp only [List.cons_append, List.nil_append, readHex?, hzero,
    digitValue?_digitChar (n / 16) (by omega), digitValue?_digitChar (n % 16) (by omega)]
  change some (((0 * 16 + 0) * 16 + n / 16) * 16 + n % 16, rest) = some (n, rest)
  congr 2
  omega

theorem joinUnits_control {n : Nat} (h : n < 0x20) (rest : List Char) :
    joinUnits n rest = (Char.ofNat n, rest) := by
  unfold joinUnits
  rw [if_neg (by omega), if_neg (by omega)]

theorem readString?_backslash {escape : List Char} {c : Char} {rest : List Char}
    (h : readEscape? escape = some (c, rest)) (fuel : Nat) :
    readString? (fuel + 1) ('\\' :: escape) =
      (readString? fuel rest).map fun (s, rest) => (c :: s, rest) := by
  simp only [readString?, h, Option.bind_eq_bind, Option.bind_some]
  cases readString? fuel rest <;> rfl

theorem readString?_cons {c : Char} (hquote : c ≠ '\x22') (hbackslash : c ≠ '\\')
    (hcontrol : ¬ c.toNat < 0x20) (fuel : Nat) (rest : List Char) :
    readString? (fuel + 1) (c :: rest) =
      (readString? fuel rest).map fun (s, rest) => (c :: s, rest) := by
  rw [readString?, if_neg hcontrol]
  · cases readString? fuel rest <;> rfl
  · exact hquote
  · exact hbackslash

/-- An escaped character takes one step to read, whatever its escape's length. -/
theorem readString?_escapeChar (fuel : Nat) (c : Char) (rest : List Char) :
    readString? (fuel + 1) (escapeChar c ++ rest) =
      (readString? fuel rest).map fun (s, rest) => (c :: s, rest) := by
  fun_cases escapeChar c
  case case8 hcontrol =>
    apply readString?_backslash
    simp [readEscape?, readHex?_control hcontrol, joinUnits_control hcontrol]
  case case9 hquote hbackslash _ _ _ _ _ hcontrol =>
    exact readString?_cons hquote hbackslash hcontrol fuel rest
  all_goals
    subst c
    exact readString?_backslash rfl fuel

theorem readString?_printed {fuel : Nat} {s : List Char} (h : s.length < fuel)
    (rest : List Char) :
    readString? fuel (s.flatMap escapeChar ++ '\x22' :: rest) = some (s, rest) := by
  induction s generalizing fuel with
  | nil =>
    obtain ⟨fuel, rfl⟩ := Nat.exists_eq_succ_of_ne_zero (by omega : fuel ≠ 0)
    rfl
  | cons c s ih =>
    obtain ⟨fuel, rfl⟩ := Nat.exists_eq_succ_of_ne_zero (by omega : fuel ≠ 0)
    rw [List.length_cons] at h
    rw [List.flatMap_cons, List.append_assoc, readString?_escapeChar, ih (by omega)]
    rfl

end SourceReport.Json

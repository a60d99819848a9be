import SourceReport.Text.Slice

namespace SourceReport.Text

theorem resolve_natCast {length n : Nat} (h : n ≤ length) : resolve length n = n := by
  rw [resolve_of_nonneg (Int.natCast_nonneg n), Int.toNat_natCast]
  exact Nat.min_eq_left h

theorem slice_zero_natCast {s : List Char} {n : Nat} (h : n ≤ s.length) :
    slice s 0 n = s.take n := by
  have h0 : resolve s.length 0 = 0 := resolve_natCast (Nat.zero_le _)
  rw [slice, resolve_natCast h, h0, List.drop_zero]

theorem exists_split {s : List Char} {a b : Nat} (hab : a ≤ b) (hb : b ≤ s.length) :
    ∃ before passed rest, s = before ++ (passed ++ rest) ∧ a = before.length ∧
      b = (before ++ passed).length := by
  refine ⟨s.take a, (s.take b).drop a, s.drop b, ?_, ?_, ?_⟩
  · have htake : s.take a = (s.take b).take a := by rw [List.take_take, Nat.min_eq_left hab]
    rw [htake, ← List.append_assoc, List.take_append_drop, List.take_append_drop]
  · rw [List.length_take]
    omega
  · rw [List.length_append, List.length_drop, List.length_take, List.length_take]
    omega

theorem findIdx?_lineFeed_eq_none {s : List Char} (h : '\n' ∉ s) :
    s.findIdx? (· == '\n') = none := by
  apply List.findIdx?_eq_none_iff.mpr
  intro c hc
  exact beq_eq_false_iff_ne.mpr fun he => h (he ▸ hc)

theorem findIdx?_lineFeed {line : List Char} (rest : List Char) (h : '\n' ∉ line) :
    (line ++ '\n' :: rest).findIdx? (· == '\n') = some line.length := by
  simp [List.findIdx?_append, findIdx?_lineFeed_eq_none h, List.findIdx?_cons]

theorem lineFeedFrom?_append {line rest : List Char} (before : List Char) (h : '\n' ∉ line) :
    lineFeedFrom? (before ++ (line ++ '\n' :: rest)) before.length =
      some (before.length + line.length) := by
  have hle : before.length ≤ (before ++ (line ++ '\n' :: rest)).length := by simp
  rw [lineFeedFrom?, resolve_natCast hle, List.drop_left, findIdx?_lineFeed rest h,
    Option.map_some]

theorem lineFeedFrom?_eq_none {rest : List Char} (before : List Char) (h : '\n' ∉ rest) :
    lineFeedFrom? (before ++ rest) before.length = none := by
  have hle : before.length ≤ (before ++ rest).length := by simp
  rw [lineFeedFrom?, resolve_natCast hle, List.drop_left, findIdx?_lineFeed_eq_none h,
    Option.map_none]

theorem le_lineEnd_append {line : List Char} (before rest : List Char) (h : '\n' ∉ line) :
    before.length + line.length ≤ lineEnd (before ++ (line ++ rest)) before.length := by
  by_cases hrest : '\n' ∈ rest
  · obtain ⟨more, after, rfl, hmore⟩ := List.eq_append_cons_of_mem hrest
    have hfree : '\n' ∉ line ++ more := by
      rw [List.mem_append]
      exact not_or.mpr ⟨h, hmore⟩
    have hbuffer : before ++ (line ++ (more ++ '\n' :: after)) =
        before ++ ((line ++ more) ++ '\n' :: after) := by rw [List.append_assoc]
    rw [hbuffer, lineEnd, lineFeedFrom?_append before hfree, Option.getD_some, List.length_append]
    omega
  · have hfree : '\n' ∉ line ++ rest := by
      rw [List.mem_append]
      exact not_or.mpr ⟨h, hrest⟩
    rw [lineEnd, lineFeedFrom?_eq_none before hfree, Option.getD_none, List.length_append,
      List.length_append]
    omega

theorem lineEnd_bounds (s : List Char) (start : Int) :
    resolve s.length start ≤ lineEnd s start ∧ lineEnd s start ≤ s.length := by
  have hstart := resolve_le s.length start
  rw [lineEnd, lineFeedFrom?]
  cases hfound : (s.drop (resolve s.length start)).findIdx? (· == '\n') with
  | none => exact ⟨hstart, Nat.le_refl _⟩
  | some i =>
    obtain ⟨hlt, -⟩ := List.findIdx?_eq_some_iff_getElem.mp hfound
    rw [List.length_drop] at hlt
    rw [Option.map_some, Option.getD_some]
    omega

theorem lastLineStart_add_length (s : List Char) :
    lastLineStart s + (s.reverse.takeWhile (· != '\n')).length = s.length := by
  have hpre : s.reverse.takeWhile (· != '\n') <+: s.reverse := List.takeWhile_prefix _
  have hle := hpre.length_le
  rw [List.length_reverse] at hle
  rw [lastLineStart]
  omega

theorem lastLineStart_append_of_not_mem {t : List Char} (s : List Char) (h : '\n' ∉ t) :
    lastLineStart (s ++ t) = lastLineStart s := by
  have hall : ∀ c ∈ t.reverse, (c != '\n') = true := by
    intro c hc
    exact bne_iff_ne.mpr fun he => h (he ▸ List.mem_reverse.mp hc)
  rw [lastLineStart, List.reverse_append, List.takeWhile_append_of_pos hall, List.length_append,
    List.length_append, List.length_reverse, lastLineStart]
  omega

theorem lastLineStart_of_not_mem {t : List Char} (h : '\n' ∉ t) : lastLineStart t = 0 :=
  lastLineStart_append_of_not_mem [] h

theorem lastLineStart_append_cons (s t : List Char) :
    lastLineStart (s ++ '\n' :: t) = s.length + 1 + lastLineStart t := by
  have hpre : t.reverse.takeWhile (· != '\n') <+: t.reverse := List.takeWhile_prefix _
  have hstop : (t.reverse ++ '\n' :: s.reverse).takeWhile (· != '\n') =
      t.reverse.takeWhile (· != '\n') := by
    rw [List.takeWhile_append]
    split
    · rename_i hall
      simp [hpre.eq_of_length hall]
    · rfl
  have hle := hpre.length_le
  rw [List.length_reverse] at hle
  simp only [lastLineStart, List.reverse_append, List.reverse_cons, List.append_assoc,
    List.singleton_append, List.length_append, List.length_cons]
  rw [hstop]
  omega

theorem lastLineStart_append_of_mem {t : List Char} (s : List Char) (h : '\n' ∈ t) :
    lastLineStart (s ++ t) = s.length + lastLineStart t := by
  obtain ⟨line, rest, rfl, -⟩ := List.eq_append_cons_of_mem h
  rw [← List.append_assoc, lastLineStart_append_cons, lastLineStart_append_cons,
    List.length_append]
  omega

theorem not_mem_drop_lastLineStart (s : List Char) : '\n' ∉ s.drop (lastLineStart s) := by
  have hpre : s.reverse.takeWhile (· != '\n') <+: s.reverse := List.takeWhile_prefix _
  rw [List.prefix_iff_eq_take] at hpre
  have hlast : (s.drop (lastLineStart s)).reverse = s.reverse.takeWhile (· != '\n') := by
    rw [lastLineStart, ← List.take_reverse, ← hpre]
  intro hmem
  rw [← List.mem_reverse, hlast] at hmem
  have hne := List.all_eq_true.mp List.all_takeWhile _ hmem
  exact absurd rfl (bne_iff_ne.mp hne)

end SourceReport.Text

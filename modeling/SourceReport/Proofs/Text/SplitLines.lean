import SourceReport.Proofs.Text.Pieces

namespace SourceReport.Text

/-- The pieces of a text are its lines, and one more if no character comes after the last line
feed. -/
theorem pieces_eq_splitLines_append (s : List Char) :
    pieces '\n' s = splitLines s ++ if s.getLast?.all (· == '\n') then [[]] else [] := by
  induction s with
  | nil => rfl
  | cons c s ih =>
    by_cases hc : c = '\n'
    · have hend : (c :: s).getLast?.all (· == '\n') = s.getLast?.all (· == '\n') := by
        cases s with
        | nil => simp [hc]
        | cons d s => rw [List.getLast?_cons_cons]
      rw [pieces, if_pos hc, splitLines, if_pos hc, ih, hend]
      rfl
    · rw [pieces, if_neg hc, splitLines, if_neg hc]
      cases s with
      | nil => simp [pieces, splitLines, hc]
      | cons d s =>
        -- a text that goes on has a first line, which is its first piece too
        obtain ⟨line, lines, hs⟩ := List.exists_cons_of_ne_nil
          (mt splitLines_eq_nil.mp (List.cons_ne_nil d s))
        rw [hs, List.cons_append] at ih
        rw [ih, hs, List.getLast?_cons_cons]
        rfl

theorem pieces_of_ne_nil {s : List Char} (h : s ≠ []) :
    pieces '\n' s = splitLines s ++ if s.getLast? = some '\n' then [[]] else [] := by
  rw [pieces_eq_splitLines_append, List.getLast?_eq_some_getLast h]
  simp

theorem not_mem_of_mem_splitLines {s : List Char} : ∀ line ∈ splitLines s, '\n' ∉ line :=
  fun line h => not_mem_of_mem_pieces line ((splitLines_prefix_pieces s).subset h)

theorem length_splitLines {s : List Char} (h : s ≠ []) :
    (splitLines s).length + (if s.getLast? = some '\n' then 1 else 0) = s.count '\n' + 1 := by
  have hlength := length_pieces '\n' s
  rw [pieces_of_ne_nil h, List.length_append] at hlength
  rw [← hlength]
  split <;> rfl

theorem joinLines_append_singleton {lines : List (List Char)} (h : lines ≠ []) (line : List Char) :
    joinLines (lines ++ [line]) = joinLines lines ++ '\n' :: line := by
  induction lines with
  | nil => exact absurd rfl h
  | cons first lines ih =>
    cases lines with
    | nil => simp [joinLines]
    | cons next lines =>
      have hrest := ih (List.cons_ne_nil next lines)
      simp only [joinLines, List.cons_append, List.intercalate_cons_cons, List.append_assoc]
        at hrest ⊢
      rw [hrest]

theorem joinLines_pieces (s : List Char) : joinLines (pieces '\n' s) = s := by
  rw [pieces_eq_splitOn]
  exact List.intercalate_splitOn '\n'

theorem joinLines_splitLines {s : List Char} (h : s ≠ []) :
    joinLines (splitLines s) ++ (if s.getLast? = some '\n' then ['\n'] else []) = s := by
  have hjoin := joinLines_pieces s
  rw [pieces_of_ne_nil h] at hjoin
  split at hjoin
  · rename_i hend
    rw [joinLines_append_singleton (mt splitLines_eq_nil.mp h)] at hjoin
    rw [if_pos hend, hjoin]
  · rename_i hend
    rw [List.append_nil] at hjoin
    rw [if_neg hend, List.append_nil, hjoin]

section
variable {lines : List (List Char)}

theorem splitLines_joinLines_append (h : lines ≠ []) (hfree : ∀ line ∈ lines, '\n' ∉ line) :
    splitLines (joinLines lines ++ ['\n']) = lines := by
  have hpieces : pieces '\n' (joinLines lines ++ ['\n']) = lines ++ [[]] := by
    rw [← joinLines_append_singleton h, pieces_joinLines_eq_iff (by simp)]
    intro line hline
    rcases List.mem_append.mp hline with hline | hline
    · exact hfree line hline
    · rw [List.mem_singleton.mp hline]
      exact List.not_mem_nil
  rw [pieces_of_ne_nil (by simp), List.getLast?_concat, if_pos rfl] at hpieces
  exact List.append_cancel_right hpieces

/-- Lines of which the last has characters are found again without a line feed behind it. -/
theorem splitLines_joinLines (h : lines ≠ []) (hfree : ∀ line ∈ lines, '\n' ∉ line)
    (hlast : lines.getLast? ≠ some []) : splitLines (joinLines lines) = lines := by
  have hpieces := (pieces_joinLines_eq_iff h).mpr hfree
  rw [pieces_eq_splitLines_append] at hpieces
  split at hpieces
  · -- the last of the lines would be the piece behind the end
    rw [← hpieces, List.getLast?_concat] at hlast
    exact absurd rfl hlast
  · rwa [List.append_nil] at hpieces

end

end SourceReport.Text

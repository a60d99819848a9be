import SourceReport.Text.Lines
import SourceReport.Proofs.Text.LineFeeds

namespace SourceReport.Text

theorem pieces_eq_splitOn (separator : Char) (s : List Char) :
    pieces separator s = s.splitOn separator := by
  induction s with
  | nil => rfl
  | cons c s ih =>
    rw [pieces, List.splitOn_cons_eq_if_modifyHead, ← ih]
    by_cases hc : c = separator
    · rw [if_pos hc, if_pos (beq_iff_eq.mpr hc)]
    · obtain ⟨piece, rest, hs⟩ := List.exists_cons_of_ne_nil (pieces_ne_nil separator s)
      rw [if_neg hc, if_neg (by simpa using hc), hs]
      rfl

theorem pieces_of_not_mem {separator : Char} {s : List Char} (h : separator ∉ s) :
    pieces separator s = [s] := by
  rw [pieces_eq_splitOn, List.splitOn_eq_singleton h]

theorem not_mem_of_mem_pieces {separator : Char} {s : List Char} :
    ∀ piece ∈ pieces separator s, separator ∉ piece := by
  induction s with
  | nil => simp [pieces]
  | cons c s ih =>
    by_cases hc : c = separator
    · rw [pieces, if_pos hc]
      exact List.forall_mem_cons.mpr ⟨List.not_mem_nil, ih⟩
    · obtain ⟨piece, rest, hs⟩ := List.exists_cons_of_ne_nil (pieces_ne_nil separator s)
      rw [hs] at ih
      obtain ⟨hpiece, hrest⟩ := List.forall_mem_cons.mp ih
      rw [pieces, if_neg hc, hs]
      refine List.forall_mem_cons.mpr ⟨fun hmem => ?_, hrest⟩
      rcases List.mem_cons.mp hmem with heq | hmem
      · exact hc heq.symm
      · exact hpiece hmem

/-- Joined lines fall apart into the same lines exactly if none of them has a line feed. -/
theorem pieces_joinLines_eq_iff {lines : List (List Char)} (h : lines ≠ []) :
    pieces '\n' (joinLines lines) = lines ↔ ∀ line ∈ lines, '\n' ∉ line := by
  constructor
  · intro heq
    rw [← heq]
    exact not_mem_of_mem_pieces
  · intro hfree
    rw [pieces_eq_splitOn]
    exact List.splitOn_intercalate '\n' hfree h

theorem pieces_append (separator : Char) (s t : List Char) :
    ∃ init last first rest, pieces separator s = init ++ [last] ∧
      pieces separator t = first :: rest ∧
      pieces separator (s ++ t) = init ++ (last ++ first) :: rest := by
  induction s with
  | nil =>
    obtain ⟨first, rest, ht⟩ := List.exists_cons_of_ne_nil (pieces_ne_nil separator t)
    exact ⟨[], [], first, rest, rfl, ht, ht⟩
  | cons c s ih =>
    obtain ⟨init, last, first, rest, hs, ht, hst⟩ := ih
    by_cases hc : c = separator
    · refine ⟨[] :: init, last, first, rest, ?_, ht, ?_⟩
      · rw [pieces, if_pos hc, hs, List.cons_append]
      · rw [List.cons_append, pieces, if_pos hc, hst, List.cons_append]
    · cases init with
      | nil =>
        refine ⟨[], c :: last, first, rest, ?_, ht, ?_⟩
        · rw [pieces, if_neg hc, hs]
          rfl
        · rw [List.cons_append, pieces, if_neg hc, hst]
          rfl
      | cons piece init =>
        refine ⟨(c :: piece) :: init, last, first, rest, ?_, ht, ?_⟩
        · rw [pieces, if_neg hc, hs]
          rfl
        · rw [List.cons_append, pieces, if_neg hc, hst]
          rfl

theorem length_pieces (separator : Char) (s : List Char) :
    (pieces separator s).length = s.count separator + 1 := by
  induction s with
  | nil => rfl
  | cons c s ih =>
    by_cases hc : c = separator
    · rw [pieces, if_pos hc, List.length_cons, ih, hc, List.count_cons_self]
    · have hcount : (c :: s).count separator = s.count separator := List.count_cons_of_ne hc
      obtain ⟨piece, rest, hs⟩ := List.exists_cons_of_ne_nil (pieces_ne_nil separator s)
      rw [hcount, ← ih, pieces, if_neg hc, hs]
      rfl

theorem getLast?_pieces (s : List Char) :
    (pieces '\n' s).getLast? = some (s.drop (lastLineStart s)) := by
  by_cases hmem : '\n' ∈ s
  · obtain ⟨line, rest, hs, hrest⟩ := List.eq_append_cons_of_mem (List.mem_reverse.mpr hmem)
    have hsplit : s = rest.reverse ++ '\n' :: line.reverse := by
      have h := congrArg List.reverse hs
      simpa using h
    have hline : '\n' ∉ line.reverse := by
      intro h
      exact hrest (List.mem_reverse.mp h)
    have hstart : lastLineStart s = (rest.reverse ++ ['\n']).length := by
      rw [hsplit, lastLineStart_append_cons, lastLineStart_of_not_mem hline, Nat.add_zero,
        List.length_append, List.length_singleton]
    have hend : s = (rest.reverse ++ ['\n']) ++ line.reverse := by
      rw [hsplit, ← List.append_cons]
    have hdrop : s.drop (lastLineStart s) = line.reverse := by
      rw [hstart, hend, List.drop_left]
    obtain ⟨init, last, first, others, -, hfirst, hwhole⟩ :=
      pieces_append '\n' rest.reverse ('\n' :: line.reverse)
    rw [pieces, if_pos rfl, pieces_of_not_mem hline] at hfirst
    obtain ⟨rfl, rfl⟩ := List.cons.inj hfirst
    rw [hdrop, hsplit, hwhole]
    simp
  · rw [lastLineStart_of_not_mem hmem, List.drop_zero, pieces_of_not_mem hmem]
    rfl

theorem splitLines_prefix_pieces (s : List Char) : splitLines s <+: pieces '\n' s := by
  induction s with
  | nil => exact List.nil_prefix
  | cons c s ih =>
    by_cases hc : c = '\n'
    · rw [splitLines, if_pos hc, pieces, if_pos hc]
      exact List.cons_prefix_cons.mpr ⟨rfl, ih⟩
    · rw [splitLines, if_neg hc, pieces, if_neg hc]
      cases hs : splitLines s with
      | nil =>
        rw [splitLines_eq_nil.mp hs]
        exact List.prefix_refl _
      | cons line lines =>
        rw [hs] at ih
        obtain ⟨others, hothers⟩ := ih
        rw [← hothers]
        exact ⟨others, rfl⟩

theorem splitLines_of_not_mem {s : List Char} (h : '\n' ∉ s) (hne : s ≠ []) :
    splitLines s = [s] := by
  have hprefix := splitLines_prefix_pieces s
  rw [pieces_of_not_mem h] at hprefix
  rcases List.prefix_cons_iff.mp hprefix with hnil | ⟨rest, hrest, hnone⟩
  · exact absurd (splitLines_eq_nil.mp hnil) hne
  · rw [hrest, List.prefix_nil.mp hnone]

/-- A line of a text that goes on is the start of the piece with its number, and all of the piece
unless it is the last line. -/
theorem exists_piece_of_line {s line : List Char} {k : Nat} (rest : List Char)
    (hk : (splitLines s)[k]? = some line) :
    ∃ more, (pieces '\n' (s ++ rest))[k]? = some (line ++ more) ∧
      (k + 1 < (splitLines s).length → more = []) := by
  obtain ⟨init, last, first, others, hs, -, hwhole⟩ := pieces_append '\n' s rest
  have hpre := splitLines_prefix_pieces s
  have hlen := hpre.length_le
  have hline : (init ++ [last])[k]? = some line := by
    obtain ⟨hlt, rfl⟩ := List.getElem?_eq_some_iff.mp hk
    rw [← hs]
    exact List.prefix_iff_getElem?.mp hpre k hlt
  rw [hs, List.length_append, List.length_singleton] at hlen
  rw [hwhole]
  by_cases hlt : k < init.length
  · rw [List.getElem?_append_left hlt] at hline
    refine ⟨[], ?_, fun _ => rfl⟩
    rw [List.getElem?_append_left hlt, hline, List.append_nil]
  · have hlast : k = init.length := by
      have hbound := (List.getElem?_eq_some_iff.mp hline).1
      rw [List.length_append, List.length_singleton] at hbound
      omega
    subst hlast
    rw [List.getElem?_append_right (Nat.le_refl _), Nat.sub_self] at hline ⊢
    obtain rfl : last = line := Option.some.inj hline
    refine ⟨first, rfl, ?_⟩
    intro hmore
    omega

/-- The lines of a stretch stand in the whole text under the numbers that count on from the line
feeds before it. What the first of them leaves out is what lies on its line before the stretch. -/
theorem exists_piece_of_stretch {passed line : List Char} {k : Nat} (before rest : List Char)
    (hk : (splitLines passed)[k]? = some line) :
    ∃ left more, (pieces '\n' (before ++ (passed ++ rest)))[before.count '\n' + k]? =
        some (left ++ (line ++ more)) ∧
      left.length + (if k = 0 then lastLineStart before else 0) =
        (if k = 0 then before.length else 0) ∧
      (k + 1 < (splitLines passed).length → more = []) := by
  obtain ⟨more, hpiece, hmore⟩ := exists_piece_of_line rest hk
  obtain ⟨init, last, first, others, hbefore, hpassed, hwhole⟩ :=
    pieces_append '\n' before (passed ++ rest)
  have hcount : before.count '\n' = init.length := by
    have hlen := length_pieces '\n' before
    rw [hbefore, List.length_append, List.length_singleton] at hlen
    omega
  have hlast : last = before.drop (lastLineStart before) := by
    have h := getLast?_pieces before
    rw [hbefore, List.getLast?_append, List.getLast?_singleton] at h
    exact Option.some.inj h
  rw [hpassed] at hpiece
  rw [hwhole, hcount, List.getElem?_append_right (Nat.le_add_right _ _), Nat.add_sub_cancel_left]
  cases k with
  | zero =>
    obtain rfl : first = line ++ more := Option.some.inj hpiece
    refine ⟨last, more, rfl, ?_, hmore⟩
    have hle := lastLineStart_le before
    rw [hlast, if_pos rfl, if_pos rfl, List.length_drop]
    omega
  | succ k =>
    refine ⟨[], more, ?_, rfl, hmore⟩
    exact hpiece

end SourceReport.Text

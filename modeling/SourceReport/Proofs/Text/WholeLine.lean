import SourceReport.Proofs.Text.Pieces

namespace SourceReport.Text

theorem pieces_eq_cons {line after : List Char} (hline : '\n' ∉ line)
    (hafter : after = [] ∨ ∃ rest, after = '\n' :: rest) :
    ∃ rest, pieces '\n' (line ++ after) = line :: rest := by
  induction line with
  | nil =>
    obtain rfl | ⟨rest, rfl⟩ := hafter
    · exact ⟨[], rfl⟩
    · exact ⟨pieces '\n' rest, by simp [pieces]⟩
  | cons c line ih =>
    have hc : c ≠ '\n' := by
      intro heq
      simp [heq] at hline
    have htail : '\n' ∉ line := fun hmem => hline (List.mem_cons_of_mem c hmem)
    obtain ⟨rest, hrest⟩ := ih htail
    exact ⟨rest, by simp [pieces, hc, hrest]⟩

/-- A text cut at a place and around the line that holds it. -/
structure LineAt (s : List Char) (place : Nat) (before left right after : List Char) : Prop where
  text_eq : s = before ++ (left ++ right ++ after)
  place_eq : place = before.length + left.length
  free : '\n' ∉ left ++ right
  starts : lastLineStart before = before.length
  ends : after = [] ∨ ∃ rest, after = '\n' :: rest

theorem exists_lineAt {s : List Char} {place : Nat} (h : place ≤ s.length) :
    ∃ before left right after, LineAt s place before left right after := by
  have hstart := lastLineStart_le (s.take place)
  have hlength : (s.take place).length = place := List.length_take_of_le h
  have hbefore : ((s.take place).take (lastLineStart (s.take place))).length =
      lastLineStart (s.take place) := List.length_take_of_le hstart
  have hleft := not_mem_drop_lastLineStart (s.take place)
  have hright : '\n' ∉ (s.drop place).takeWhile (· != '\n') := by
    intro hmem
    have hne := List.all_eq_true.mp List.all_takeWhile _ hmem
    simp at hne
  refine ⟨(s.take place).take (lastLineStart (s.take place)),
    (s.take place).drop (lastLineStart (s.take place)), (s.drop place).takeWhile (· != '\n'),
    (s.drop place).dropWhile (· != '\n'), ?_, ?_, ?_, ?_, ?_⟩
  · rw [List.append_assoc, ← List.append_assoc (List.take _ _), List.take_append_drop,
      List.takeWhile_append_dropWhile, List.take_append_drop]
  · rw [hbefore, List.length_drop]
    omega
  · rw [List.mem_append]
    exact not_or.mpr ⟨hleft, hright⟩
  · have hcut := lastLineStart_append_of_not_mem
      ((s.take place).take (lastLineStart (s.take place))) hleft
    rw [List.take_append_drop] at hcut
    rw [← hcut, hbefore]
  · cases hafter : (s.drop place).dropWhile (· != '\n') with
    | nil => exact .inl rfl
    | cons c rest =>
      have hc := List.head?_dropWhile_not (· != '\n') (s.drop place)
      rw [hafter] at hc
      have hfeed : c = '\n' := by simpa using hc
      exact .inr ⟨rest, by rw [hfeed]⟩

namespace LineAt
variable {s before left right after : List Char} {place : Nat}

section
variable (h : LineAt s place before left right after)
include h

theorem split_eq : s = (before ++ left) ++ (right ++ after) ∧ (before ++ left).length = place := by
  rw [h.text_eq, h.place_eq]
  simp

theorem take_eq : s.take place = before ++ left := by
  obtain ⟨hs, hplace⟩ := h.split_eq
  rw [hs, ← hplace, List.take_left]

theorem drop_eq : s.drop place = right ++ after := by
  obtain ⟨hs, hplace⟩ := h.split_eq
  rw [hs, ← hplace, List.drop_left]

theorem free_left : '\n' ∉ left := fun hmem => h.free (List.mem_append_left _ hmem)

theorem free_right : '\n' ∉ right := fun hmem => h.free (List.mem_append_right _ hmem)

theorem count_eq : (s.take place).count '\n' = before.count '\n' := by
  rw [h.take_eq, List.count_append, List.count_eq_zero.mpr h.free_left, Nat.add_zero]

theorem lastLineStart_eq : lastLineStart (s.take place) = before.length := by
  rw [h.take_eq, lastLineStart_append_of_not_mem _ h.free_left, h.starts]

theorem length_takeWhile_eq :
    ((s.take place).reverse.takeWhile (· != '\n')).length = left.length := by
  have hcolumn := lastLineStart_add_length (s.take place)
  rw [h.lastLineStart_eq, h.take_eq, List.length_append] at hcolumn
  rw [h.take_eq]
  omega

theorem lineEnd_eq : lineEnd s before.length = (before ++ (left ++ right)).length := by
  rw [List.length_append]
  obtain hnil | ⟨rest, hrest⟩ := h.ends
  · rw [h.text_eq, hnil, List.append_nil, lineEnd, lineFeedFrom?_eq_none before h.free,
      Option.getD_none, List.length_append]
  · rw [h.text_eq, hrest, lineEnd, lineFeedFrom?_append before h.free, Option.getD_some]

theorem takeWhile_drop_eq : (s.drop place).takeWhile (· != '\n') = right := by
  have hall : ∀ c ∈ right, (c != '\n') = true := by
    intro c hc
    exact bne_iff_ne.mpr fun heq => h.free_right (heq ▸ hc)
  rw [h.drop_eq, List.takeWhile_append_of_pos hall]
  obtain hnil | ⟨rest, hrest⟩ := h.ends
  · rw [hnil, List.takeWhile_nil, List.append_nil]
  · rw [hrest, List.takeWhile_cons, bne_self_eq_false, if_neg Bool.false_ne_true, List.append_nil]

theorem lineEnd_place : lineEnd s place = place + right.length := by
  obtain ⟨hs, hplace⟩ := h.split_eq
  obtain hnil | ⟨rest, hrest⟩ := h.ends
  · rw [← hplace, hs, hnil, List.append_nil, lineEnd, lineFeedFrom?_eq_none _ h.free_right,
      Option.getD_none, List.length_append]
  · rw [← hplace, hs, hrest, lineEnd, lineFeedFrom?_append _ h.free_right, Option.getD_some]

theorem getElem?_pieces : (pieces '\n' s)[(s.take place).count '\n']? = some (left ++ right) := by
  obtain ⟨others, hline⟩ := pieces_eq_cons h.free h.ends
  obtain ⟨init, last, first, rest, hbefore, hfirst, hwhole⟩ :=
    pieces_append '\n' before (left ++ right ++ after)
  obtain ⟨rfl, rfl⟩ := List.cons.inj (hfirst.symm.trans hline)
  -- the text before the line is empty or ends with a line feed, so its last piece is empty
  have hlast : last = [] := by
    have hget := getLast?_pieces before
    rw [hbefore, h.starts, List.drop_length, List.getLast?_append, List.getLast?_singleton] at hget
    exact Option.some.inj hget
  have hcount : before.count '\n' = init.length := by
    have hlength := length_pieces '\n' before
    rw [hbefore, List.length_append, List.length_singleton] at hlength
    omega
  rw [h.count_eq, h.text_eq, hwhole, hcount, List.getElem?_append_right (Nat.le_refl _),
    Nat.sub_self, hlast]
  rfl

end

end LineAt

end SourceReport.Text

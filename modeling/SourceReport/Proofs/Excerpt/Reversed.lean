import SourceReport.Proofs.Excerpt.Matched

namespace SourceReport
open Text

theorem Text.Window.content_clamp_add {buffer : List Char} {a n : Nat} (h : a + n ≤ buffer.length) :
    (Window.clamp buffer a (some ((a + n : Nat) : Int))).content = (buffer.drop a).take n := by
  rw [Window.clamp_natCast (Nat.le_add_right a n) h, Window.content, List.drop_take,
    Nat.add_sub_cancel_left]

namespace Excerpt
variable {buffer before left right after before' left' right' after' : List Char} {a b : Nat}

theorem column_le (hba : b ≤ a) (h : LineAt buffer a before left right after)
    (h' : LineAt buffer b before' left' right' after')
    (hfree : '\n' ∉ (buffer.take a).drop b) : left'.length ≤ left.length := by
  have hsplit : buffer.take a = buffer.take b ++ (buffer.take a).drop b := by
    have htake : buffer.take b = (buffer.take a).take b := by
      rw [List.take_take, Nat.min_eq_left hba]
    rw [htake, List.take_append_drop]
  have hstart : before.length = before'.length := by
    rw [← h.lastLineStart_eq, ← h'.lastLineStart_eq, hsplit,
      lastLineStart_append_of_not_mem _ hfree]
  have hplace := h.place_eq
  have hplace' := h'.place_eq
  omega

/-- A reversed range has no lines to skip, so it ends on the line it starts on. -/
theorem rangeEnd_reversed (hba : b ≤ a) (h : LineAt buffer a before left right after)
    (h' : LineAt buffer b before' left' right' after') :
    rangeEnd (.atOffset buffer a) (.atOffset buffer b) =
      ((a + min left'.length right.length : Nat) : Int) := by
  have hcount : (buffer.take b).count '\n' ≤ (buffer.take a).count '\n' :=
    (List.take_prefix_take_left hba).sublist.count_le _
  have hskip : (((buffer.take b).count '\n' : Int) - (buffer.take a).count '\n').toNat = 0 := by
    omega
  rw [h.atOffset_eq, h'.atOffset_eq, rangeEnd]
  dsimp only
  rw [hskip, skipLines]
  dsimp only
  rw [h.lineEnd_place]
  omega

theorem content_between_reversed (hba : b ≤ a) (h : LineAt buffer a before left right after)
    (h' : LineAt buffer b before' left' right' after') :
    (between (.atOffset buffer a) (.atOffset buffer b)).text.content =
      if '\n' ∈ (buffer.take a).drop b then right.take left'.length else [] := by
  have hlines := line_eq_line_iff hba h.place_le
  have hlength : a + right.length ≤ buffer.length := by
    have hdrop := congrArg List.length h.drop_eq
    rw [List.length_drop, List.length_append] at hdrop
    have hle := h.place_le
    omega
  by_cases hmem : '\n' ∈ (buffer.take a).drop b
  · have hne : ¬ (Position.atOffset buffer a).line = (Position.atOffset buffer b).line :=
      fun heq => hlines.mp heq.symm hmem
    have hend := rangeEnd_reversed hba h h'
    rw [between, if_neg hne, if_pos hmem, hend, h.atOffset_eq]
    dsimp only
    rw [Passage.content, Window.content_clamp_add (by omega), h.drop_eq,
      List.take_append_of_le_length (Nat.min_le_right _ _), ← List.take_eq_take_min]
  · have heq := (hlines.mpr hmem).symm
    have hcolumn := column_le hba h h' hmem
    have hlast : (a : Int) + max 0 ((left'.length : Int) - left.length) =
        ((a + 0 : Nat) : Int) := by omega
    rw [between, if_pos heq, if_neg hmem, h.atOffset_eq, h'.atOffset_eq]
    dsimp only
    rw [Passage.content, hlast, Window.content_clamp_add h.place_le, List.take_zero]

/-- Between two positions in the wrong order on one line there is no text. On different lines the
text is what is left of the line of the first, as many characters as the column of the second; so
there is none exactly if the second starts its line or the first ends its own. -/
theorem between_reversed (buffer : List Char) (a b : Nat) (hba : b < a) (ha : a ≤ buffer.length) :
    let column := ((buffer.take b).reverse.takeWhile (· != '\n')).length
    let left := (buffer.drop a).takeWhile (· != '\n')
    ∃ start stop, Position.at? buffer a = .ok start ∧ Position.at? buffer b = .ok stop ∧
      ('\n' ∉ (buffer.take a).drop b → (between start stop).text.content = []) ∧
      ('\n' ∈ (buffer.take a).drop b → (between start stop).text.content = left.take column ∧
        ((between start stop).text.content = [] ↔
          column = 0 ∨ buffer[a]? = none ∨ buffer[a]? = some '\n')) := by
  intro column left
  have hb : b ≤ buffer.length := by omega
  obtain ⟨_, _, right, _, h⟩ := exists_lineAt ha
  obtain ⟨_, left', _, _, h'⟩ := exists_lineAt hb
  have hcontent := content_between_reversed (Nat.le_of_lt hba) h h'
  rw [← h.takeWhile_drop_eq, ← h'.length_takeWhile_eq] at hcontent
  refine ⟨_, _, Position.at?_natCast ha, Position.at?_natCast hb, ?_, ?_⟩
  · intro hfree
    rw [hcontent, if_neg hfree]
  · intro hmem
    have hends : left = [] ↔ buffer[a]? = none ∨ buffer[a]? = some '\n' := by
      rw [← List.head?_drop]
      show (buffer.drop a).takeWhile (· != '\n') = [] ↔ _
      cases buffer.drop a with
      | nil => simp
      | cons c rest => by_cases hc : c = '\n' <;> simp [hc]
    rw [hcontent, if_pos hmem]
    exact ⟨rfl, List.take_eq_nil_iff.trans (or_congr_right hends)⟩

/-- From the end of the second line back to its start nothing is shown. From its start back to the
second column of the first line, one of its characters is. -/
theorem between_reversed_lines :
    3 < 5 ∧ 5 ≤ "ab\ncd".toList.length ∧ 1 < 3 ∧ 3 ≤ "ab\ncd".toList.length ∧ ∃ last second first,
      Position.at? "ab\ncd".toList 5 = .ok last ∧ Position.at? "ab\ncd".toList 3 = .ok second ∧
      Position.at? "ab\ncd".toList 1 = .ok first ∧ (between last second).text.content = [] ∧
      (between second first).text.content = ['c'] := by
  obtain ⟨last, second, hlast, hsecond, hline, -⟩ :=
    between_reversed "ab\ncd".toList 5 3 (by decide) (by decide)
  obtain ⟨start, first, hstart, hfirst, -, hlines⟩ :=
    between_reversed "ab\ncd".toList 3 1 (by decide) (by decide)
  obtain rfl : start = second := Except.ok.inj (hstart.symm.trans hsecond)
  exact ⟨by decide, by decide, by decide, by decide, last, start, first, hlast, hstart, hfirst,
    hline (by decide), (hlines (by decide)).1⟩

/-- Not every reversed range is without text. -/
theorem between_reversed_shows :
    ¬ ∀ (buffer : List Char) (a b : Nat), b < a → a ≤ buffer.length →
      ∀ start stop, Position.at? buffer a = .ok start → Position.at? buffer b = .ok stop →
        (between start stop).text.content = [] := by
  intro h
  have hnone := h "ab\ncd".toList 3 1 (by decide) (by decide) _ _ rfl rfl
  exact absurd hnone (by decide)

end Excerpt

end SourceReport

import SourceReport.Proofs.Excerpt.Numbers
import SourceReport.Proofs.Text.WholeLine

namespace SourceReport
open Text

namespace Text.LineAt
variable {s before left right after : List Char} {place : Nat}
  (h : LineAt s place before left right after)
include h

theorem place_le : place ≤ s.length := by
  rw [h.place_eq, h.text_eq]
  simp only [List.length_append]
  omega

theorem atOffset_eq : Position.atOffset s place =
    { buffer := s, offset := place, line := (s.take place).count '\n', column := left.length } := by
  have hcolumn : ((s.take place).length : Int) - before.length = left.length := by
    rw [h.take_eq, List.length_append]
    omega
  rw [List.length_take_of_le h.place_le] at hcolumn
  rw [Position.atOffset_natCast h.place_le, h.lastLineStart_eq, hcolumn]

/-- The window from the start of the line to its end holds the line. -/
theorem content_clamp : (Window.clamp s ((place : Int) - left.length)
    (some (lineEnd s ((place : Int) - left.length)))).content = left ++ right := by
  have hstart : (place : Int) - left.length = before.length := by
    rw [h.place_eq]
    omega
  have hsplit : s = before ++ (left ++ right) ++ after := by
    rw [h.text_eq]
    simp
  have hle : before.length ≤ (before ++ (left ++ right)).length := by simp
  have hstop : (before ++ (left ++ right)).length ≤ s.length := by
    rw [hsplit]
    exact (List.prefix_append _ after).length_le
  rw [hstart, h.lineEnd_eq, Window.clamp_natCast hle hstop]
  show (s.take (before ++ (left ++ right)).length).drop before.length = left ++ right
  rw [hsplit, List.take_left, List.drop_left]

end Text.LineAt

namespace Excerpt
variable {source : List Char} {a b : Nat}

theorem ofMatch?_natCast (hab : a ≤ b) (hb : b ≤ source.length) (path : List Char)
    (comment : Option (List Char)) :
    ofMatch? source a b path comment = .ok (ofMatch source a b path comment) := by
  rw [ofMatch?, Position.at?_natCast (Nat.le_trans hab hb), Position.at?_natCast hb]
  rfl

theorem ofMatch_of_mem (hab : a ≤ b) (hb : b ≤ source.length) (path : List Char)
    (comment : Option (List Char)) (hmem : '\n' ∈ (source.take b).drop a) :
    ∃ text, ofMatch source a b path comment =
        { source := some path, lineNumber := some ((source.take a).count '\n' + 1)
          firstLineOffset := a - lastLineStart (source.take a), text, highlights := [] } ∧
      text.content = (source.take b).drop a := by
  have hne : (Position.atOffset source a).line ≠ (Position.atOffset source b).line := by
    intro heq
    exact (line_eq_line_iff hab hb).mp heq hmem
  obtain ⟨before, passed, rest, rfl, rfl, rfl⟩ := exists_split hab hb
  have hbetween := between_atOffset_append before passed rest
  have hslice : ((before ++ (passed ++ rest)).take (before ++ passed).length).drop before.length =
      passed := by
    rw [← List.append_assoc, List.take_left, List.drop_left]
  rw [hslice] at hmem
  rw [if_pos hmem, List.append_assoc] at hbetween
  unfold ofMatch
  dsimp only
  rw [if_pos hne, hbetween, List.take_left]
  exact ⟨_, rfl, rfl⟩

theorem ofMatch_of_not_mem (hab : a ≤ b) (hb : b ≤ source.length) (path : List Char)
    (comment : Option (List Char)) (hmem : '\n' ∉ (source.take b).drop a)
    {before left right after : List Char} (h : LineAt source a before left right after) :
    ofMatch source a b path comment =
      { source := some path, lineNumber := some ((source.take a).count '\n' + 1)
        text := .borrowed (.clamp source ((a : Int) - left.length)
          (some (lineEnd source ((a : Int) - left.length))))
        highlights := [{ line := 0, offset := left.length, length := b - a, comment }] } := by
  have heq := (line_eq_line_iff hab hb).mpr hmem
  unfold ofMatch
  rw [if_neg (not_not_intro heq), h.atOffset_eq]
  rfl

theorem slice_prefix {before left right after : List Char}
    (h : LineAt source a before left right after) (hmem : '\n' ∉ (source.take b).drop a) :
    (source.take b).drop a <+: right := by
  have hprefix : (source.take b).drop a <+: right ++ after := by
    rw [← h.drop_eq, List.drop_take]
    exact List.take_prefix _ _
  obtain rfl | ⟨rest, rfl⟩ := h.ends
  · simpa using hprefix
  · apply List.prefix_of_prefix_length_le hprefix (List.prefix_append right _)
    refine Nat.le_of_not_lt fun hlt => ?_
    have hlonger : right ++ ['\n'] <+: (source.take b).drop a := by
      apply List.prefix_of_prefix_length_le _ hprefix
      · simp only [List.length_append, List.length_singleton]
        omega
      · exact ⟨rest, by simp⟩
    exact hmem (hlonger.subset (by simp))

/-- A match is shown with its path and the number of the line it starts on. If it lies on one line,
that whole line is shown, with one highlight from the match's column on that covers the matched
characters; else the matched text is shown, with no highlight. -/
theorem ofMatch_shows (source : List Char) (a b : Nat) (hab : a ≤ b) (hb : b ≤ source.length)
    (path : List Char) (comment : Option (List Char)) :
    let column := ((source.take a).reverse.takeWhile (· != '\n')).length
    ∃ e, ofMatch? source a b path comment = .ok e ∧ e.source = some path ∧
      e.lineNumber = some ((source.take a).count '\n' + 1) ∧
      ('\n' ∉ (source.take b).drop a →
        (pieces '\n' source)[(source.take a).count '\n']? = some e.text.content ∧
        '\n' ∉ e.text.content ∧
        e.highlights = [{ line := 0, offset := column, length := b - a, comment }] ∧
        column + (b - a) ≤ e.text.content.length ∧
        (e.text.content.drop column).take (b - a) = (source.take b).drop a) ∧
      ('\n' ∈ (source.take b).drop a →
        e.text.content = (source.take b).drop a ∧ e.highlights = [] ∧
        e.firstLineOffset = column) := by
  intro column
  obtain ⟨before, left, right, after, h⟩ := exists_lineAt (Nat.le_trans hab hb)
  have hcolumn : column = left.length := h.length_takeWhile_eq
  refine ⟨_, ofMatch?_natCast hab hb path comment, ?_⟩
  by_cases hmem : '\n' ∈ (source.take b).drop a
  · obtain ⟨text, heq, htext⟩ := ofMatch_of_mem hab hb path comment hmem
    have hoffset : (a : Int) - lastLineStart (source.take a) = column := by
      rw [h.lastLineStart_eq, h.place_eq, hcolumn]
      omega
    rw [heq]
    exact ⟨rfl, rfl, fun hnot => absurd hmem hnot, fun _ => ⟨htext, rfl, hoffset⟩⟩
  · obtain ⟨more, hright⟩ := slice_prefix h hmem
    have hlength : ((source.take b).drop a).length = b - a := by
      rw [List.length_drop, List.length_take_of_le hb]
    have hline : (pieces '\n' source)[(source.take a).count '\n']? = some (left ++ right) :=
      h.getElem?_pieces
    have hcontent := h.content_clamp
    rw [ofMatch_of_not_mem hab hb path comment hmem h, hcolumn]
    refine ⟨rfl, rfl, fun _ => ?_, fun hyes => absurd hyes hmem⟩
    dsimp only
    rw [Passage.content, hcontent]
    refine ⟨hline, h.free, rfl, ?_, ?_⟩
    · rw [← hright, List.length_append, List.length_append, hlength]
      omega
    · rw [List.drop_left, ← hright, ← hlength, List.take_left]

/-- The end of the first line, and the line feed after it with the next line. -/
theorem ofMatch_shows_ends :
    1 ≤ 2 ∧ 2 ≤ "ab\ncd".toList.length ∧ 2 ≤ 4 ∧ 4 ≤ "ab\ncd".toList.length ∧
      ∃ ended broken, ofMatch? "ab\ncd".toList 1 2 ['f'] (some ['!']) = .ok ended ∧
        ended.text.content = "ab".toList ∧ ended.lineNumber = some 1 ∧
        ended.highlights = [{ line := 0, offset := 1, length := 1, comment := some ['!'] }] ∧
        ofMatch? "ab\ncd".toList 2 4 ['f'] (some ['!']) = .ok broken ∧
        broken.text.content = "\nc".toList ∧ broken.highlights = [] ∧
        broken.firstLineOffset = 2 := by
  obtain ⟨ended, hended, -, hnumber, hone, -⟩ :=
    ofMatch_shows "ab\ncd".toList 1 2 (by decide) (by decide) ['f'] (some ['!'])
  obtain ⟨broken, hbroken, -, -, -, hseveral⟩ :=
    ofMatch_shows "ab\ncd".toList 2 4 (by decide) (by decide) ['f'] (some ['!'])
  obtain ⟨hline, -, hhighlights, -, -⟩ := hone (by decide)
  obtain ⟨htext, hnone, hoffset⟩ := hseveral (by decide)
  have hab : some "ab".toList = some ended.text.content := hline
  exact ⟨by decide, by decide, by decide, by decide, ended, broken, hended,
    (Option.some.inj hab).symm, hnumber, hhighlights, hbroken, htext, hnone, hoffset⟩

end Excerpt

end SourceReport

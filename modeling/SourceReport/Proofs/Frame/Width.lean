import Mathlib
import SourceReport.Proofs.Frame.Body
import SourceReport.Proofs.Frame.Marks

namespace SourceReport.Frame
open Text

def BlockLine.InBody : BlockLine → Prop
  | .row .. => True
  | .strip _ => True
  | _ => False

theorem budget_columns (margin : Nat) (o : Options) :
    margin + 3 + (2 * o.glyphs.ellipsis.length + (Layout.ofOptions margin o).budget) =
      max o.maxColumns (margin + 3 + 10 + 2 * o.glyphs.ellipsis.length) := by
  simp only [Layout.budget, Layout.width, Layout.ofOptions, leastBudget]
  omega

theorem length_strip_le (margin : Nat) (o : Options) (highlights : List Highlight)
    {length lead : Nat} {row : Row} (hlead : lead ≤ o.glyphs.ellipsis.length)
    (hrow : row.start ≤ row.stop)
    (hbudget : row.stop ≤ row.start + (Layout.ofOptions margin o).budget) :
    ∀ s ∈ rowStrips (.ofOptions margin o) highlights length row lead, ∀ line ∈ s.lines,
      line.length ≤ 2 * o.glyphs.ellipsis.length + (Layout.ofOptions margin o).budget := by
  intro s hs
  have hpos := o.ellipsis_pos
  have hwidth : (Layout.ofOptions margin o).width ≤
      2 * o.glyphs.ellipsis.length + (Layout.ofOptions margin o).budget := by
    simp only [Layout.budget, Layout.ofOptions]
    omega
  apply (Strip.ordered_of_mem_pack s hs).length_le_of_mem_lines
  intro m hm c hc
  have hmem : m ∈ highlights.filterMap ((Layout.ofOptions margin o).mark? length row lead) :=
    (Strip.marks_pack_perm _).mem_iff.mp (List.mem_flatMap.mpr ⟨s, hs, hm⟩)
  obtain ⟨h, -, hmark⟩ := List.mem_filterMap.mp hmem
  have := Layout.cells_mark?_le _ hmark hrow c hc
  omega

theorem length_print_body_le {margin : Nat} {o : Options} {e : Excerpt}
    (hm : e.margin ≤ margin) (hn : ∀ n, e.lineNumber = some n → 1 ≤ n) :
    ∀ b ∈ body (.ofOptions margin o) e, (b.print (.ofOptions margin o)).length ≤
      max o.maxColumns (margin + 3 + 10 + 2 * o.glyphs.ellipsis.length) := by
  intro b hb
  obtain ⟨i, hi, row, hrow, hb⟩ := exists_of_mem_body hb
  obtain ⟨-, hle, hlen, hbudget⟩ := (Layout.tiles_rows _ _ _).bounds (lineStart_le ..) row hrow
  rw [← budget_columns]
  rcases List.mem_cons.mp hb with rfl | hb
  · have hnumber := Excerpt.length_number_le hm hn hi
    obtain ⟨left, right, he, hleft, hright⟩ := BlockLine.print_row (l := .ofOptions margin o)
      rfl hnumber (decide (0 < row.start) || (i == 0 && decide (0 < e.firstLineOffset)))
      ((Layout.ofOptions margin o).glyphs.display
        ((e.logicalLines[i].take row.stop).drop row.start))
      (decide (row.stop < e.logicalLines[i].length))
    have hlead : left.length ≤ margin + 3 + o.glyphs.ellipsis.length := by
      rw [hleft]
      exact Nat.add_le_add_left (Layout.lead_le (.ofOptions margin o) _ row) _
    change right.length ≤ o.glyphs.ellipsis.length at hright
    rw [he]
    simp only [List.length_append, Glyphs.length_display, List.length_drop, List.length_take]
    omega
  · obtain ⟨s, hs, hb⟩ := List.mem_flatMap.mp hb
    obtain ⟨line, hline, rfl⟩ := List.mem_map.mp hb
    obtain ⟨left, he, hleft⟩ := BlockLine.print_strip (l := .ofOptions margin o) rfl line
    rw [he, List.length_append, hleft]
    have := length_strip_le margin o (highlightsOn e i)
      (Layout.lead_le (.ofOptions margin o) (i == 0 && decide (0 < e.firstLineOffset)) row)
      hle hbudget s hs line hline
    omega

theorem mem_body_of_mem_sharedLines {l : Layout} {note : Option (List Char)} {count index : Nat}
    {excerpts : List Excerpt} {b : BlockLine} (hb : b ∈ sharedLines l note count index excerpts)
    (hbody : b.InBody) : ∃ e ∈ excerpts, e.text.isEmpty = false ∧ b ∈ body l e := by
  obtain ⟨e, he, role, hb⟩ := exists_excerpt_of_mem_sharedLines hb
  rcases mem_excerptLines_cases hb with hb | rfl | rfl | rfl
  · exact ⟨e, he, hb⟩
  · exact hbody.elim
  · exact hbody.elim
  · exact hbody.elim

/-- No row or strip of a block is wider than the columns asked for, or than what the margin, the
frame, two ellipses and the shortest rows need. -/
theorem length_print_le_maxColumns (o : Options) (note : Option (List Char))
    (excerpts : List Excerpt)
    (hn : ∀ e ∈ excerpts, ∀ n, e.lineNumber = some n → 1 ≤ n) :
    ∀ b ∈ blockLines o note excerpts, b.InBody →
      (b.print (sharedLayout o excerpts)).length ≤
        max o.maxColumns (sharedMargin excerpts + 3 + 10 + 2 * o.glyphs.ellipsis.length) ∧
      (sharedMargin excerpts + 13 + 2 * o.glyphs.ellipsis.length ≤ o.maxColumns →
        (b.print (sharedLayout o excerpts)).length ≤ o.maxColumns) := by
  intro b hb hbody
  obtain ⟨e, he, htext, hb⟩ := mem_body_of_mem_sharedLines hb hbody
  have hle := length_print_body_le (margin_le_sharedMargin he htext) (hn e he) b hb
  change (b.print (sharedLayout o excerpts)).length ≤ _ at hle
  exact ⟨hle, fun hroom => by omega⟩

def wideExcerpt : Excerpt where
  lineNumber := some 9
  text := .owned "let total = price * count".toList
  highlights := [⟨0, 12, 5, some "no such name".toList⟩]

/-- The second line of the comment keeps to twenty columns. -/
theorem length_print_le_twenty :
    .strip "      name".toList ∈ blockLines { maxColumns := 20 } none [wideExcerpt] ∧
      (BlockLine.print (sharedLayout { maxColumns := 20 } [wideExcerpt])
        (.strip "      name".toList)).length ≤ 20 := by
  have hn : ∀ e ∈ [wideExcerpt], ∀ n, e.lineNumber = some n → 1 ≤ n := by
    intro e he n hline
    rw [List.mem_singleton.mp he] at hline
    obtain rfl : 9 = n := Option.some.inj hline
    decide
  have hget : (blockLines { maxColumns := 20 } none [wideExcerpt])[4]? =
      some (.strip "      name".toList) := by cbv
  have hmem := List.mem_of_getElem? hget
  exact ⟨hmem, (length_print_le_maxColumns { maxColumns := 20 } none [wideExcerpt] hn _ hmem
    trivial).2 (by decide)⟩

end SourceReport.Frame

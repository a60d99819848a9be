import SourceReport.Proofs.Frame.Body
import SourceReport.Proofs.Frame.Marks

namespace SourceReport.Frame
open Text

/-- Rows that show a line up to its end, each from where the one before has stopped. -/
structure TilesLine (length budget : Nat) (rows : List Row) : Prop where
  follows : rows.IsChain fun r s => s.start = r.stop
  ends : rows.getLast?.map Row.stop = some length
  fits : ∀ r ∈ rows, r.start ≤ r.stop ∧ r.stop - r.start ≤ budget
  full : ∀ r ∈ rows.dropLast, r.stop - r.start = budget
  empty : ∀ r ∈ rows, r.start = r.stop → length = 0

namespace Tiles
variable {length budget start : Nat} {rows : List Row}

theorem first_eq {first : Row} {rest : List Row} (h : Tiles length budget start (first :: rest)) :
    first.start = start ∧ first.stop = min length (start + budget) := by
  cases h with
  | last h => exact ⟨rfl, (Nat.min_eq_left h).symm⟩
  | next h _ => exact ⟨rfl, (Nat.min_eq_right (Nat.le_of_lt h)).symm⟩

theorem follows (h : Tiles length budget start rows) :
    rows.IsChain fun r s => s.start = r.stop := by
  induction h with
  | last => exact .singleton _
  | next _ hr ih =>
    obtain ⟨second, rest, rfl, hsecond⟩ := hr.exists_first
    exact List.isChain_cons_cons.mpr ⟨hsecond, ih⟩

theorem ends (h : Tiles length budget start rows) :
    rows.getLast?.map Row.stop = some length := by
  induction h with
  | last => rfl
  | next _ hr ih =>
    obtain ⟨second, rest, rfl, -⟩ := hr.exists_first
    rwa [List.getLast?_cons_cons]

theorem full (h : Tiles length budget start rows) :
    ∀ r ∈ rows.dropLast, r.stop - r.start = budget := by
  induction h with
  | last => simp
  | next _ hr ih =>
    obtain ⟨second, rest, rfl, -⟩ := hr.exists_first
    rw [List.dropLast_cons_cons]
    refine List.forall_mem_cons.mpr ⟨?_, ih⟩
    dsimp only
    omega

theorem length_eq (h : Tiles length budget start rows) (hb : 0 < budget) :
    rows.length = max 1 ((length - start + budget - 1) / budget) := by
  induction h with
  | @last start h =>
    have hlt : (length - start + budget - 1) / budget < 2 :=
      (Nat.div_lt_iff_lt_mul hb).mpr (by omega)
    rw [List.length_singleton]
    omega
  | @next start rest h hr ih =>
    have hsplit : length - start + budget - 1 =
        length - (start + budget) + budget - 1 + budget := by omega
    have hpos : 0 < (length - (start + budget) + budget - 1) / budget :=
      Nat.div_pos (by omega) hb
    rw [List.length_cons, ih, hsplit, Nat.add_div_right _ hb]
    omega

theorem tilesLine (h : Tiles length budget start rows) (hb : 0 < budget)
    (hs : start < length ∨ length = 0) (hle : start ≤ length) : TilesLine length budget rows where
  follows := h.follows
  ends := h.ends
  fits r hr := by
    have := h.bounds hle r hr
    omega
  full := h.full
  empty r hr he := by
    rcases hs with hs | hs
    · have := h.start_lt_stop hb hs r hr
      omega
    · exact hs

end Tiles

theorem exists_of_highlightSpan {highlights : List Highlight} {length first last : Int}
    (h : highlightSpan highlights length = some (first, last)) :
    ∃ a ∈ highlights, first = min a.offset length := by
  unfold highlightSpan at h
  split at h
  · rename_i hmin hmax
    obtain ⟨rfl, rfl⟩ := Prod.mk.inj (Option.some.inj h)
    obtain ⟨a, ha, he⟩ := List.mem_map.mp (List.min?_eq_some_iff.mp hmin).1
    exact ⟨a, ha, he.symm⟩
  · cases h

theorem lineStart_none (length budget : Nat) : lineStart length none budget = 0 := by
  unfold lineStart firstStart
  split <;> rfl

theorem lineStart_some (length : Nat) {budget : Nat} (hb : leastBudget ≤ budget) (first last : Int)
    (hfirst : first ≤ length) :
    (lineStart length (some (first, last)) budget : Int) =
      if length ≤ budget then 0 else max 0 (first - leadIn) := by
  unfold leastBudget at hb
  unfold lineStart firstStart leadIn
  split
  · rfl
  · dsimp only
    omega

def BlockLine.isRow : BlockLine → Bool
  | .row .. => true
  | _ => false

theorem filter_isRow_rowLines (l : Layout) (highlights : List Highlight) (number : Option Int)
    (cutStart : Bool) (line : List Char) (row : Row) :
    (rowLines l highlights number cutStart line row).filter BlockLine.isRow =
      [.row number (decide (0 < row.start) || cutStart)
        (l.glyphs.display ((line.take row.stop).drop row.start))
        (decide (row.stop < line.length))] := by
  have hstrips (strips : List Strip) :
      (strips.flatMap fun s => s.lines.map BlockLine.strip).filter BlockLine.isRow = [] := by
    refine List.filter_eq_nil_iff.mpr fun b hb => ?_
    obtain ⟨s, -, hb⟩ := List.mem_flatMap.mp hb
    obtain ⟨drawn, -, rfl⟩ := List.mem_map.mp hb
    exact Bool.false_ne_true
  rw [rowLines, List.filter_cons_of_pos rfl, hstrips]

theorem filter_isRow_linePart (l : Layout) {e : Excerpt} {k : Nat} {line : List Char}
    (h : e.logicalLines[k]? = some line) :
    (linePart l e k).filter BlockLine.isRow = (rowsOn l e k line).map fun row =>
      .row (e.lineNumber.map (· + (k : Int)))
        (decide (0 < row.start) || (k == 0 && decide (0 < e.firstLineOffset)))
        (l.glyphs.display ((line.take row.stop).drop row.start))
        (decide (row.stop < line.length)) := by
  rw [linePart, h, List.filter_flatMap, List.map_eq_flatMap]
  congr 1
  funext row
  exact filter_isRow_rowLines l _ _ _ line row

theorem flatMap_display (g : Glyphs) (s : List Char) (rows : List Row) :
    rows.flatMap (fun r => g.display ((s.take r.stop).drop r.start)) =
      g.display (rows.flatMap fun r => (s.take r.stop).drop r.start) :=
  (List.map_flatMap ..).symm

/-- Rows tile a line from where the first of them starts. Without highlights that is the start of
the line, and on a line that needs several rows it is a few characters before the span of the
highlights, if there are as many. As they are printed, the number, the frame and the ellipses
apart, the rows show the text from there on; an ellipsis stands behind the rows that do not reach
the line's end, and before those that do not start the line or start one that is cut before. -/
theorem rows_tile_line {length budget : Nat} (hbudget : 10 ≤ budget) {highlights : List Highlight}
    (hnn : ∀ h ∈ highlights, 0 ≤ h.offset ∧ 0 ≤ h.length) :
    let span := highlightSpan highlights length
    let rows := lineRows length span budget
    TilesLine length budget rows ∧
    (length ≤ budget → rows = [⟨0, length⟩]) ∧
    ∃ first rest, rows = first :: rest ∧
      rows.length = max 1 ((length - first.start + budget - 1) / budget) ∧
      (span = none → first.start = 0) ∧
      (∀ s stop, span = some (s, stop) →
        (budget < length → (first.start : Int) = max 0 (s - 5)) ∧
        first.start ≤ s ∧ (s < first.stop ∨ s = length)) ∧
      (∀ h ∈ highlights, ∀ i, h.Covers length i → first.start ≤ i) ∧
      ∀ (l : Layout) (e : Excerpt) (k : Nat) (line : List Char), l.budget = budget →
        e.logicalLines[k]? = some line → line.length = length → highlightsOn e k = highlights →
        ((linePart l e k).filter BlockLine.isRow).map (BlockLine.print l) = rows.map (fun r =>
          BlockLine.numberColumns l.margin ((e.lineNumber.map (· + (k : Int))).elim [] decimal) ++
            [' ', l.glyphs.row, ' '] ++
            (if 0 < r.start ∨ k = 0 ∧ 0 < e.firstLineOffset then l.glyphs.ellipsis else []) ++
            l.glyphs.display ((line.take r.stop).drop r.start) ++
            (if r.stop < length then l.glyphs.ellipsis else [])) ∧
        rows.flatMap (fun r => l.glyphs.display ((line.take r.stop).drop r.start)) =
          l.glyphs.display (line.drop first.start) := by
  intro span rows
  have hpos : 0 < budget := by omega
  have htiles : Tiles length budget (lineStart length span budget) rows := tiles_lineRows hpos span
  have hle := lineStart_le length span budget
  have hlt := lineStart_lt_or_zero length span budget
  obtain ⟨first, rest, hrows, hstart⟩ := htiles.exists_first
  have hfirst := (hrows ▸ htiles).first_eq
  refine ⟨htiles.tilesLine hpos hlt hle, fun h => lineRows_of_le h span, first, rest, hrows, ?_,
    fun hnone => ?_, fun s stop hspan => ?_, fun h hh i hi => ?_, ?_⟩
  · rw [hstart]
    exact htiles.length_eq hpos
  · rw [hstart, hnone, lineStart_none]
  · obtain ⟨a, ha, hs⟩ := exists_of_highlightSpan hspan
    obtain ⟨h0, -⟩ := hnn a ha
    have hsome := lineStart_some length hbudget s stop (by omega)
    rw [← hspan, ← hfirst.1] at hsome
    unfold leadIn at hsome
    obtain ⟨-, hstop⟩ := hfirst
    rw [← hstart] at hstop
    split at hsome <;> omega
  · have hbefore := lineStart_le_first hh length budget
    have h0 := (hnn h hh).1
    have hcover : h.firstOn length ≤ i := hi.1
    unfold Highlight.firstOn at hcover
    change (lineStart length span budget : Int) ≤ _ at hbefore
    omega
  · rintro l e k line rfl hline rfl rfl
    refine ⟨?_, ?_⟩
    · rw [filter_isRow_linePart l hline, List.map_map]
      refine List.map_congr_left fun r _ => ?_
      simp only [Function.comp_apply, BlockLine.print, Bool.or_eq_true, Bool.and_eq_true,
        decide_eq_true_eq, beq_iff_eq]
    · rw [flatMap_display, htiles.flatMap_slice, hstart]

/-- A line on rows of fourteen characters, with a highlight that crosses the first row's end. -/
theorem rows_tile_line_crossing :
    let highlights : List Highlight := [⟨0, 12, 13, none⟩]
    let rows := lineRows 25 (highlightSpan highlights 25) 14
    let l := Layout.ofOptions 1 { maxColumns := 20 }
    let line := "let total = price * count".toList
    let e : Excerpt := { lineNumber := some 9, text := .owned line, highlights }
    (∀ h ∈ highlights, 0 ≤ h.offset ∧ 0 ≤ h.length) ∧ TilesLine 25 14 rows ∧ rows.length = 2 ∧
      l.budget = 14 ∧ e.logicalLines[0]? = some line ∧ highlightsOn e 0 = highlights ∧
      rows.flatMap (fun r => l.glyphs.display ((line.take r.stop).drop r.start)) =
        "al = price * count".toList := by
  intro highlights rows l line e
  have hnn : ∀ h ∈ highlights, 0 ≤ h.offset ∧ 0 ≤ h.length := by decide
  have hspan : highlightSpan highlights 25 = some (12, 25) := by decide
  have hbudget : l.budget = 14 := by decide
  have hline : e.logicalLines[0]? = some line := by decide
  have hon : highlightsOn e 0 = highlights := by cbv
  obtain ⟨htiles, -, first, -, -, hcount, -, hstart, -, hprinted⟩ :=
    @rows_tile_line 25 14 (by decide) _ hnn
  have hseven : first.start = 7 := by
    have := (hstart 12 25 hspan).1 (by decide)
    omega
  rw [hseven] at hcount
  obtain ⟨-, hshown⟩ := hprinted l e 0 line hbudget hline (by decide) hon
  rw [hseven] at hshown
  exact ⟨hnn, htiles, hcount, hbudget, hline, hon, hshown.trans (by decide)⟩

end SourceReport.Frame

import SourceReport.Proofs.Frame.Body
import SourceReport.Proofs.Highlight.Order

namespace SourceReport.Frame
open Text Highlight

theorem pairwise_highlightsOn (e : Excerpt) (k : Nat) :
    (highlightsOn e k).Pairwise fun a b => a.offset ≤ b.offset :=
  pairwise_mergeSort_key Highlight.offset _

theorem filter_highlightsOn (e : Excerpt) (k : Nat) (offset : Int) :
    (highlightsOn e k).filter (·.offset == offset) = e.highlights.filter (isAt k offset) := by
  rw [filter_isAt]
  exact filter_mergeSort_key Highlight.offset _ offset

theorem map_moveTo_highlightsOn {e e' : Excerpt} {k k' : Nat}
    (h : ∀ offset, (e.highlights.filter (isAt k offset)).map (moveTo k') =
      e'.highlights.filter (isAt k' offset)) :
    (highlightsOn e k).map (moveTo k') = highlightsOn e' k' := by
  have hsorted : ((highlightsOn e k).map (moveTo k')).Pairwise fun a b => a.offset ≤ b.offset :=
    List.pairwise_map.mpr (pairwise_highlightsOn e k)
  apply eq_of_pairwise_of_filter_eq hsorted (pairwise_highlightsOn e' k')
  intro offset
  rw [filter_highlightsOn, ← h, ← filter_highlightsOn, List.filter_map]
  rfl

theorem map_moveTo_filter_isAt (highlights : List Highlight) (line offset : Int) :
    (highlights.filter (isAt line offset)).map (moveTo line) =
      highlights.filter (isAt line offset) := by
  have hmove : ∀ h ∈ highlights.filter (isAt line offset), moveTo line h = id h := by
    intro h hh
    have hat := (List.mem_filter.mp hh).2
    simp only [isAt, Bool.and_eq_true, beq_iff_eq] at hat
    rw [moveTo, ← hat.1, id]
  rw [List.map_congr_left hmove, List.map_id]

/-- Whether two lines of excerpts have the same text, number and highlights. -/
structure SameLine (e : Excerpt) (k : Nat) (e' : Excerpt) (k' : Nat) : Prop where
  text : e.logicalLines[k]? = e'.logicalLines[k']?
  number : e.lineNumber.map (· + (k : Int)) = e'.lineNumber.map (· + (k' : Int))
  /-- Either both or none are a first line of which the start is left out. -/
  cutStart : k = 0 ∧ 0 < e.firstLineOffset ↔ k' = 0 ∧ 0 < e'.firstLineOffset
  /-- Those at the same offset are the same in the same order, so all are in order of offsets. -/
  highlights : ∀ offset, (e.highlights.filter (isAt k offset)).map (moveTo k') =
    e'.highlights.filter (isAt k' offset)

theorem drawnAlike_moveTo (l : Layout) (length : Nat) (line : Int) :
    DrawnAlike l length (moveTo line) :=
  ⟨fun _ => rfl, fun _ => rfl, fun _ _ _ => rfl⟩

theorem linePart_congr (l : Layout) {e e' : Excerpt} {k k' : Nat} (h : SameLine e k e' k') :
    linePart l e k = linePart l e' k' := by
  have hcut : (k == 0 && decide (0 < e.firstLineOffset)) =
      (k' == 0 && decide (0 < e'.firstLineOffset)) := by
    rw [Bool.eq_iff_iff]
    simpa using h.cutStart
  exact linePart_of_map (fun line _ => drawnAlike_moveTo l line.length k') h.text h.number hcut
    (map_moveTo_highlightsOn h.highlights)

section
variable {e : Excerpt} {others : List Highlight}

theorem linePart_of_filter_line (l : Layout) {k : Nat}
    (h : others.filter (·.line == (k : Int)) = e.highlights.filter (·.line == (k : Int))) :
    linePart l { e with highlights := others } k = linePart l e k := by
  apply linePart_congr
  refine ⟨rfl, rfl, Iff.rfl, fun offset => ?_⟩
  rw [map_moveTo_filter_isAt, filter_isAt, filter_isAt, h]

def onLineOf (e : Excerpt) (h : Highlight) : Bool :=
  decide (0 ≤ h.line ∧ h.line < e.logicalLines.length)

theorem filter_line_of_filter_onLineOf
    (h : others.filter (onLineOf e) = e.highlights.filter (onLineOf e)) {k : Nat}
    (hk : k < e.logicalLines.length) :
    others.filter (·.line == (k : Int)) = e.highlights.filter (·.line == (k : Int)) := by
  have hline (highlights : List Highlight) : highlights.filter (·.line == (k : Int)) =
      (highlights.filter (onLineOf e)).filter (·.line == (k : Int)) := by
    rw [List.filter_filter]
    refine List.filter_congr fun h _ => ?_
    rw [Bool.eq_iff_iff]
    simp only [onLineOf, beq_iff_eq, Bool.and_eq_true, decide_eq_true_eq]
    omega
  rw [hline others, hline e.highlights, h]

theorem body_of_filter_onLineOf (l : Layout)
    (h : others.filter (onLineOf e) = e.highlights.filter (onLineOf e)) :
    body l { e with highlights := others } = body l e := by
  rw [body_eq_flatMap_linePart, body_eq_flatMap_linePart, List.flatMap_def, List.flatMap_def]
  congr 1
  apply List.map_congr_left
  intro k hk
  exact linePart_of_filter_line l (filter_line_of_filter_onLineOf h (List.mem_range.mp hk))

theorem locator_of_perm (h : others.Perm e.highlights) :
    ({ e with highlights := others } : Excerpt).locator = e.locator := by
  have hlength := h.length_eq
  unfold Excerpt.locator
  match others, he : e.highlights with
  | [], [] => rfl
  | [a], [b] =>
    rw [he, List.singleton_perm_singleton] at h
    rw [h]
  | _ :: _ :: _, _ :: _ :: _ => rfl
  | [], _ :: _ | [_], [] | [_], _ :: _ :: _ | _ :: _ :: _, [] | _ :: _ :: _, [_] =>
    simp [he] at hlength

/-- Highlights that are given in another order draw the same, if those at each place keep theirs. -/
theorem drawnLines_of_filter_isAt (o : Options) (note : Option (List Char)) (placement : Placement)
    (h : ∀ line offset, others.filter (isAt line offset) =
      e.highlights.filter (isAt line offset)) :
    ({ e with highlights := others } : Excerpt).drawnLines note placement o =
      e.drawnLines note placement o := by
  apply drawnLines_congr o note placement (locator_of_perm (perm_of_filter_isAt_eq h))
  intro l k
  apply linePart_congr
  refine ⟨rfl, rfl, Iff.rfl, fun offset => ?_⟩
  rw [map_moveTo_filter_isAt]
  exact h k offset

end

/-- An excerpt is drawn line by line between the ends of its frame. What is drawn for a line is the
same for all excerpts in which the line is the same, so highlights on other lines do not show on it
and those on lines that there are not draw nothing. Highlights may be given in any order that keeps
those at one place in theirs, as the order that an excerpt keeps them in does. -/
theorem lines_independent (o : Options) (note : Option (List Char)) (placement : Placement)
    (e : Excerpt) :
    let l := Layout.ofOptions (placement.margin.getD e.margin) o
    (e.text.isEmpty = false → e.drawnLines note placement o =
      ((if placement.role.opens then [BlockLine.opening (e.source.map fun _ => e.locator)]
        else []) ++ (List.range e.logicalLines.length).flatMap (linePart l e) ++
        (if placement.role.closes then [BlockLine.closing note] else [])).map
          (BlockLine.print l)) ∧
    (∀ k e' k', SameLine e k e' k' → linePart l e k = linePart l e' k') ∧
    (∀ others (k : Nat),
      others.filter (·.line == (k : Int)) = e.highlights.filter (·.line == (k : Int)) →
      linePart l { e with highlights := others } k = linePart l e k) ∧
    (∀ others, others.filter (onLineOf e) = e.highlights.filter (onLineOf e) →
      body l { e with highlights := others } = body l e) ∧
    (∀ others, (∀ line offset, others.filter (isAt line offset) =
        e.highlights.filter (isAt line offset)) →
      ({ e with highlights := others } : Excerpt).drawnLines note placement o =
        e.drawnLines note placement o) ∧
    StablySorted e.highlights (Highlight.sort e.highlights) ∧
    ({ e with highlights := Highlight.sort e.highlights } : Excerpt).drawnLines note placement o =
      e.drawnLines note placement o := by
  intro l
  have hsorted := stablySorted_sort e.highlights
  refine ⟨fun htext => ?_, fun k e' k' h => linePart_congr l h,
    fun others k h => linePart_of_filter_line l h, fun others h => body_of_filter_onLineOf l h,
    fun others h => drawnLines_of_filter_isAt o note placement h, hsorted,
    drawnLines_of_filter_isAt o note placement hsorted.kept⟩
  have hempty := Excerpt.isEmpty_eq_false_of_text htext
  simp only [Excerpt.drawnLines, excerptLines, hempty, htext, Bool.false_eq_true, if_false,
    body_eq_flatMap_linePart, l]

def unsortedExcerpt : Excerpt where
  source := some "ab.txt".toList
  lineNumber := some 9
  text := .owned "ab\ncd".toList
  highlights := [⟨1, 0, 1, some "later".toList⟩, ⟨7, 0, 1, none⟩, ⟨0, 1, 1, some "one".toList⟩,
    ⟨-1, 0, 1, none⟩, ⟨0, 1, 1, some "two".toList⟩, ⟨0, 0, 2, none⟩]

/-- The first line, alone and with its highlights in order, is drawn as among the others. -/
theorem lines_independent_unsorted :
    let l := Layout.ofOptions 2 {}
    let first : Excerpt :=
      { lineNumber := some 9, text := .owned "ab".toList
        highlights := [⟨0, 0, 2, none⟩, ⟨0, 1, 1, some "one".toList⟩,
          ⟨0, 1, 1, some "two".toList⟩] }
    let onLines : List Highlight := [⟨1, 0, 1, some "later".toList⟩, ⟨0, 1, 1, some "one".toList⟩,
      ⟨0, 1, 1, some "two".toList⟩, ⟨0, 0, 2, none⟩]
    unsortedExcerpt.text.isEmpty = false ∧
      unsortedExcerpt.drawnLines none { role := .middle, margin := some 2 } {} =
        ((List.range 2).flatMap (linePart l unsortedExcerpt)).map (BlockLine.print l) ∧
      SameLine unsortedExcerpt 0 first 0 ∧
      linePart l unsortedExcerpt 0 = linePart l first 0 ∧
      onLines.filter (onLineOf unsortedExcerpt) =
        unsortedExcerpt.highlights.filter (onLineOf unsortedExcerpt) ∧
      body l { unsortedExcerpt with highlights := onLines } = body l unsortedExcerpt := by
  intro l first onLines
  obtain ⟨hdrawn, hline, -, hbody, -⟩ :=
    lines_independent {} none { role := .middle, margin := some 2 } unsortedExcerpt
  have hsame : SameLine unsortedExcerpt 0 first 0 := by
    refine ⟨by decide, by decide, by decide, fun offset => ?_⟩
    obtain rfl | rfl | ⟨h0, h1⟩ : offset = 0 ∨ offset = 1 ∨ 0 ≠ offset ∧ 1 ≠ offset := by omega
    · decide
    · decide
    · simp [unsortedExcerpt, first, isAt, h0, h1]
  have hon : onLines.filter (onLineOf unsortedExcerpt) =
      unsortedExcerpt.highlights.filter (onLineOf unsortedExcerpt) := by decide
  have htext : unsortedExcerpt.text.isEmpty = false := by decide
  have hcount : unsortedExcerpt.logicalLines.length = 2 := by decide
  have hdrawn := hdrawn htext
  rw [hcount, show Role.middle.opens = false from rfl, show Role.middle.closes = false from rfl,
    if_neg Bool.false_ne_true, if_neg Bool.false_ne_true, List.nil_append,
    List.append_nil] at hdrawn
  exact ⟨htext, hdrawn, hsame, hline 0 first 0 hsame, hon, hbody onLines hon⟩

end SourceReport.Frame

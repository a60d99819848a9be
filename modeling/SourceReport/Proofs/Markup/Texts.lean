import SourceReport.Proofs.Frame.Coverage
import SourceReport.Proofs.Markup.Agreement

namespace SourceReport
open Text SourceReport.Frame

/-- Whether a highlight has a run or a point on a line with `length` characters. -/
def Highlight.Shows (h : Highlight) (length : Nat) : Prop :=
  max 0 (h.firstOn length) < h.stopOn length ∨
    0 ≤ h.firstOn length ∧ h.firstOn length = h.stopOn length

instance (h : Highlight) (length : Nat) : Decidable (h.Shows length) :=
  inferInstanceAs (Decidable (_ ∨ _))

/-- The comments on the lines of an excerpt, of the highlights that show there. -/
def Excerpt.shownComments (e : Excerpt) : List (List Char) :=
  (e.logicalLines.mapIdx fun i line =>
    (e.highlights.filter fun h => h.line == (i : Int) && decide (h.Shows line.length)).filterMap
      (·.comment)).flatten

def Excerpt.texts (e : Excerpt) : List (List Char) := e.source.toList ++ e.shownComments

namespace Markup

section
variable {s : List Char} {highlights : List Highlight} {h : Highlight}

theorem infix_intercalate {sep : List Char} {parts : List (List Char)} (hs : s ∈ parts) :
    s <:+: List.intercalate sep parts := by
  induction parts with
  | nil => cases hs
  | cons part parts ih =>
    cases parts with
    | nil =>
      obtain rfl := List.mem_singleton.mp hs
      exact ⟨[], [], by simp [List.intercalate]⟩
    | cons next rest =>
      have hsplit : List.intercalate sep (part :: next :: rest) =
          part ++ (sep ++ List.intercalate sep (next :: rest)) := rfl
      rw [hsplit]
      rcases List.mem_cons.mp hs with rfl | hs
      · exact (List.prefix_append _ _).isInfix
      · exact (ih hs).trans ⟨part ++ sep, [], by simp⟩

/-- A run's title names the comments of all highlights that share the run. -/
theorem comment_infix_of_runTag {cover : List Highlight} {ns : List Node} (hh : h ∈ cover)
    (hcomment : h.comment = some s) (hs : s ≠ []) (htag : runTag cover ∈ shownAll ns) :
    escape s <:+: printAll ns := by
  have hpart : s ∈ (cover.filterMap (·.comment)).filter (· ≠ []) :=
    List.mem_filter.mpr ⟨List.mem_filterMap.mpr ⟨h, hh, hcomment⟩, decide_eq_true hs⟩
  have htitle : escape s <:+: escape (List.intercalate "; ".toList _) :=
    escape_infix_escape (infix_intercalate hpart)
  exact htitle.trans (value_infix_printAll
    (List.mem_cons_of_mem _ (List.mem_singleton_self ("title".toList, _))) ns htag)

theorem opening_of_pointTitle? {t : Token} {title : List Char} (ht : t.pointTitle? = some title) :
    ∃ name first key, t = .opening name [first, (key, title)] := by
  unfold Token.pointTitle? at ht
  split at ht
  · obtain ⟨-, htitle⟩ := Option.ite_none_right_eq_some.mp ht
    obtain rfl := Option.some.inj htitle
    exact ⟨_, _, _, rfl⟩
  · cases ht

theorem title_infix_of_mem_points {before place : Nat} {title : List Char} {ns : List Node}
    (hpoint : (place, title) ∈ points before (shownAll ns)) : title <:+: printAll ns := by
  have hopening : ∃ name first key, Token.opening name [first, (key, title)] ∈ shownAll ns := by
    generalize shownAll ns = tokens at hpoint
    induction tokens generalizing before with
    | nil => cases hpoint
    | cons t tokens ih =>
      rw [points, List.mem_append] at hpoint
      rcases hpoint with hpoint | hpoint
      · obtain ⟨found, hfound, heq⟩ := List.mem_map.mp hpoint
        obtain ⟨-, rfl⟩ := Prod.mk.inj heq
        obtain ⟨name, first, key, rfl⟩ := opening_of_pointTitle? (Option.mem_toList.mp hfound)
        exact ⟨name, first, key, List.mem_cons_self⟩
      · obtain ⟨name, first, key, hmem⟩ := ih hpoint
        exact ⟨name, first, key, List.mem_cons_of_mem t hmem⟩
  obtain ⟨name, first, key, hmem⟩ := hopening
  exact value_infix_printAll (List.mem_cons_of_mem first (List.mem_singleton_self (key, title)))
    ns hmem

theorem comment_infix_rowNodes_of_covers {line : List Char} {row : Row} (hh : h ∈ highlights)
    (hcomment : h.comment = some s) (hs : s ≠ []) {i : Nat} (hcovers : h.Covers line.length i)
    (hi : row.start ≤ i) (hlt : i < row.stop) (hstop : row.stop ≤ line.length) :
    escape s <:+: printAll (rowNodes line row highlights) := by
  have hcover : h ∈ covering highlights line.length i :=
    List.mem_filter.mpr ⟨hh, decide_eq_true hcovers⟩
  obtain ⟨c, -, hshown⟩ := enclosed_rowNodes highlights hi hlt hstop
  have htag : runTag (covering highlights line.length i) ∈
      runTags (covering highlights line.length i) := by
    rw [runTags, if_neg (List.ne_nil_of_mem hcover)]
    exact List.mem_singleton_self _
  have hmem := mem_of_mem_enclosed (List.mem_of_getElem? hshown) _ htag
  exact comment_infix_of_runTag hcover hcomment hs (hmem.resolve_left List.not_mem_nil)

theorem comment_infix_rowNodes_of_point {line : List Char} {row : Row} (hh : h ∈ highlights)
    (hcomment : h.comment = some s) (hpoint : h.firstOn line.length = h.stopOn line.length)
    (hshows : Layout.PointShows line.length row h) (hle : row.start ≤ row.stop)
    (hstop : row.stop ≤ line.length) :
    escape s <:+: printAll (rowNodes line row highlights) := by
  -- the text of the row has the same points, for any layout
  let l := Layout.ofOptions 1 {}
  let place := (h.firstOn line.length - row.start).toNat
  have hdraws : l.drawsPoint line.length row 0 (0 + place) h = true :=
    (l.drawsPoint_iff _).mpr ⟨hpoint, hshows, rfl⟩
  have hplace : place < row.stop - row.start + 1 := by
    unfold Layout.PointShows at hshows
    omega
  have hmem : (place, escape s) ∈ points 0 (shownAll (rowNodes line row highlights)) := by
    rw [points_rowNodes l 0 highlights hle hstop]
    refine List.mem_flatMap.mpr ⟨place, List.mem_range.mpr hplace, ?_⟩
    refine List.mem_map.mpr ⟨h, List.mem_filter.mpr ⟨hh, hdraws⟩, ?_⟩
    rw [hcomment, Option.getD_some]
  exact title_infix_of_mem_points hmem

theorem rowNodes_infix_lineNodes {columns : Nat} {line : List Char} {row : Row}
    (hrow : row ∈ lineRows line.length (highlightSpan highlights line.length) columns)
    (number : Option Int) (cutStart : Bool) :
    printAll (rowNodes line row highlights) <:+:
      printAll (lineNodes columns highlights number cutStart line) := by
  have hcut : printAll (rowNodes line row highlights) <:+: printAll
      (ellipsisNode (decide (0 < row.start) || cutStart) ++ rowNodes line row highlights ++
        ellipsisNode (decide (row.stop < line.length))) := printAll_infix_printAll ⟨_, _, rfl⟩
  have hnumbered := hcut.trans (inside_infix_printAll
    (List.mem_cons_of_mem (.classed .span "line-number".toList [.text (number.elim [] decimal)])
      (List.mem_singleton_self (Node.classed .span "line".toList _))))
  exact hnumbered.trans
    (printAll_infix_flatMap (numberedRow highlights number cutStart line) hrow)

theorem comment_infix_lineNodes {columns : Nat} (hcolumns : 0 < columns) {line : List Char}
    (hh : h ∈ highlights) (hcomment : h.comment = some s) (hs : s ≠ [])
    (hshows : h.Shows line.length) (number : Option Int) (cutStart : Bool) :
    escape s <:+: printAll (lineNodes columns highlights number cutStart line) := by
  let span := highlightSpan highlights line.length
  have htiles : Tiles line.length columns _ (lineRows line.length span columns) :=
    tiles_lineRows hcolumns span
  have hbounds := htiles.bounds (lineStart_le ..)
  have hstart : (lineStart line.length span columns : Int) ≤ max 0 (h.firstOn line.length) :=
    lineStart_le_first hh _ _
  have hend : h.stopOn line.length ≤ line.length := Int.min_le_right _ _
  have hrow : ∃ row ∈ lineRows line.length span columns,
      escape s <:+: printAll (rowNodes line row highlights) := by
    rcases hshows with hrun | ⟨h0, hpoint⟩
    · obtain ⟨row, ⟨hrow, hi, hlt⟩, -⟩ := htiles.existsUnique_shows
        (i := (max 0 (h.firstOn line.length)).toNat) (by omega) (by omega)
      refine ⟨row, hrow, comment_infix_rowNodes_of_covers hh hcomment hs ?_ hi hlt
        (hbounds row hrow).2.2.1⟩
      exact ⟨by omega, by omega⟩
    · obtain ⟨row, ⟨hrow, hpointShows⟩, -⟩ :=
        htiles.pointShows_once (h := h) hcolumns (lineStart_lt_or_zero ..) (by omega)
      obtain ⟨-, hle, hstop, -⟩ := hbounds row hrow
      exact ⟨row, hrow, comment_infix_rowNodes_of_point hh hcomment hpoint hpointShows hle hstop⟩
  obtain ⟨row, hrow, htitle⟩ := hrow
  exact htitle.trans (rowNodes_infix_lineNodes hrow number cutStart)

end

section
variable {s : List Char} (options : Options)

theorem source_infix_locator {e : Excerpt} (h : e.source = some s) : s <:+: e.locator := by
  rw [Excerpt.locator, h]
  exact (List.prefix_append _ _).isInfix

theorem bodyNodes_infix_excerptNodes {e : Excerpt} (h : e.isEmpty = false) :
    printAll (bodyNodes options.htmlColumns e) <:+: printAll (excerptNodes options e) := by
  rw [excerptNodes, if_neg (by simp [h])]
  exact (printAll_infix_printAll (List.suffix_append _ _).isInfix).trans
    (inside_infix_printAll (List.mem_singleton_self _))

theorem source_infix_excerptNodes {e : Excerpt} (h : e.source = some s) :
    escape s <:+: printAll (excerptNodes options e) := by
  have hempty : e.isEmpty = false := by simp [Excerpt.isEmpty, h]
  have hshown : (e.source.isSome || e.text.isEmpty) = true := by simp [h]
  rw [excerptNodes, if_neg (by simp [hempty])]
  dsimp only
  rw [if_pos hshown]
  have hlocator := text_infix_printAll (List.mem_append_left (bodyNodes options.htmlColumns e)
    (List.mem_singleton_self (Node.classed .span "source".toList [.text e.locator])))
  exact ((escape_infix_escape (source_infix_locator h)).trans hlocator).trans
    (inside_infix_printAll (List.mem_singleton_self _))

theorem comment_infix_excerptNodes {e : Excerpt} (hs : s ≠ []) (h : s ∈ e.shownComments) :
    escape s <:+: printAll (excerptNodes options e) := by
  obtain ⟨comments, hcomments, h⟩ := List.mem_flatten.mp h
  obtain ⟨i, hi, rfl⟩ := List.mem_mapIdx.mp hcomments
  obtain ⟨a, ha, hcomment⟩ := List.mem_filterMap.mp h
  obtain ⟨hmem, hon⟩ := List.mem_filter.mp ha
  obtain ⟨hon, hshows⟩ := Bool.and_eq_true_iff.mp hon
  have htext : e.text.isEmpty = false := by
    rw [← Bool.not_eq_true, ← Excerpt.logicalLines_eq_nil]
    exact List.ne_nil_of_length_pos (Nat.zero_lt_of_lt hi)
  have hcolumns : 0 < options.htmlColumns := Nat.lt_of_lt_of_le (by decide) options.le_htmlColumns
  have hline : a ∈ e.highlights.filter fun h => h.line == (i : Int) :=
    List.mem_filter.mpr ⟨hmem, hon⟩
  have hlines := comment_infix_lineNodes hcolumns hline hcomment hs (of_decide_eq_true hshows)
    (e.lineNumber.map (· + (i : Int))) (i == 0 && decide (0 < e.firstLineOffset))
  have hnodes : lineNodes options.htmlColumns _ _ _ e.logicalLines[i] <:+:
      bodyNodes options.htmlColumns e :=
    List.infix_of_mem_flatten (List.mem_mapIdx.mpr ⟨i, hi, rfl⟩)
  exact (hlines.trans (printAll_infix_printAll hnodes)).trans
    (bodyNodes_infix_excerptNodes options (Excerpt.isEmpty_eq_false_of_text htext))

/-- The markup of an excerpt names its source and its comments. -/
theorem escape_infix_excerptNodes (hs : s ≠ []) {e : Excerpt} (h : s ∈ e.texts) :
    escape s <:+: printAll (excerptNodes options e) := by
  rw [Excerpt.texts, List.mem_append] at h
  rcases h with h | h
  · exact source_infix_excerptNodes options (Option.mem_toList.mp h)
  · exact comment_infix_excerptNodes options hs h

end

end Markup

end SourceReport

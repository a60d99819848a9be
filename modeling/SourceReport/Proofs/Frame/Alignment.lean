import Mathlib
import SourceReport.Proofs.Frame.Coverage

namespace SourceReport.Frame
open Text

theorem exists_labels_flatten {α β : Type} {f : α → β} {yss : List (List β)} {xs : List α}
    (h : yss.flatten = xs.map f) :
    ∃ xss : List (List α), xss.map (List.map f) = yss ∧ xss.flatten = xs := by
  induction yss generalizing xs with
  | nil => exact ⟨[], rfl, by simpa using h⟩
  | cons ys yss ih =>
    obtain ⟨front, back, rfl, hfront, hback⟩ := List.map_eq_append_iff.mp h.symm
    obtain ⟨xss, hmap, rfl⟩ := ih hback.symm
    exact ⟨front :: xss, by rw [List.map_cons, hfront, hmap], rfl⟩

/-- Labels can be carried along where the labelled things are rearranged into lists. -/
theorem exists_labels {α β : Type} {f : α → β} {yss : List (List β)} {xs : List α}
    (h : yss.flatten.Perm (xs.map f)) :
    ∃ xss : List (List α), xss.map (List.map f) = yss ∧ xss.flatten.Perm xs := by
  have hcomp : Relation.Comp (· = List.map f ·) List.Perm yss.flatten xs := by
    rw [List.eq_map_comp_perm]
    exact h
  obtain ⟨zs, hzs, hperm⟩ := hcomp
  obtain ⟨xss, hmap, rfl⟩ := exists_labels_flatten hzs
  exact ⟨xss, hmap, hperm⟩

theorem index_unique {α : Type} {xss : List (List α)} (h : xss.flatten.Nodup) {a : α} {p q : Nat}
    {xs ys : List α} (hp : xss[p]? = some xs) (hq : xss[q]? = some ys) (hx : a ∈ xs)
    (hy : a ∈ ys) : p = q := by
  obtain ⟨hpl, rfl⟩ := List.getElem?_eq_some_iff.mp hp
  obtain ⟨hql, rfl⟩ := List.getElem?_eq_some_iff.mp hq
  have hapart := List.pairwise_iff_getElem.mp (List.nodup_flatten.mp h).2
  rcases Nat.lt_trichotomy p q with hlt | heq | hlt
  · exact absurd hy (hapart p q hpl hql hlt hx)
  · exact heq
  · exact absurd hx (hapart q p hql hpl hlt hy)

/-- The marks of highlights, each with the number of its highlight. -/
def numberedMarks (mark : Highlight → Option Mark) (highlights : List Highlight) :
    List (Nat × Mark) :=
  highlights.zipIdx.filterMap fun p => (mark p.1).map fun m => (p.2, m)

theorem map_snd_numberedMarks (mark : Highlight → Option Mark) (highlights : List Highlight) :
    (numberedMarks mark highlights).map Prod.snd = highlights.filterMap mark := by
  have hmap : highlights.filterMap mark = highlights.zipIdx.filterMap fun p => mark p.1 := by
    conv_lhs => rw [← List.zipIdx_map_fst 0 highlights, List.filterMap_map]
    rfl
  rw [numberedMarks, List.map_filterMap, hmap]
  congr 1
  funext p
  cases mark p.1 <;> rfl

theorem mem_numberedMarks {mark : Highlight → Option Mark} {highlights : List Highlight}
    {k : Nat} {m : Mark} :
    (k, m) ∈ numberedMarks mark highlights ↔ ∃ h, highlights[k]? = some h ∧ mark h = some m := by
  simp only [numberedMarks, List.mem_filterMap, Option.map_eq_some_iff, Prod.mk.injEq]
  constructor
  · rintro ⟨⟨h, j⟩, hmem, n, hn, rfl, rfl⟩
    exact ⟨h, List.mem_zipIdx_iff_getElem?.mp hmem, hn⟩
  · rintro ⟨h, hget, hm⟩
    exact ⟨(h, k), List.mem_zipIdx_iff_getElem?.mpr hget, m, hm, rfl, rfl⟩

theorem nodup_numberedMarks (mark : Highlight → Option Mark) (highlights : List Highlight) :
    (numberedMarks mark highlights).Nodup := by
  have hindices : (highlights.zipIdx.map Prod.snd).Pairwise (· ≠ ·) := by
    rw [List.zipIdx_map_snd]
    exact List.nodup_range'
  apply List.pairwise_filterMap.mpr
  apply (List.pairwise_map.mp hindices).imp
  intro p p' hne a ha b hb heq
  obtain ⟨m, -, rfl⟩ := Option.map_eq_some_iff.mp ha
  obtain ⟨n, -, rfl⟩ := Option.map_eq_some_iff.mp hb
  exact hne (congrArg Prod.fst heq)

namespace Strip

/-- The marks whose glyphs stand on each drawn line of a strip: all of them on the first line. The
lines after it belong to comments. -/
def runs (s : Strip) : List (List Mark) := s.marks :: List.replicate (s.height - 1) []

theorem Ordered.forall₂_runs {s : Strip} (h : s.Ordered) :
    List.Forall₂ (fun marks line => ∀ m ∈ marks, ShowsAt line m.column m.glyph)
      s.runs s.lines := by
  rw [runs, lines, height, List.range_succ_eq_map, List.map_cons, Nat.add_sub_cancel]
  refine .cons (fun m hm => h.showsAt_glyph hm) ?_
  apply List.forall₂_of_length_eq_of_get
  · simp
  · intro i hi _ m hm
    simp at hm

theorem flatten_runs (strips : List Strip) :
    (strips.flatMap runs).flatten = strips.flatMap marks := by
  induction strips with
  | nil => rfl
  | cons s strips ih => 
    simp [runs, ih]

end Strip

/-- Every mark that a row has is carried by one line of the strips, under its number. -/
theorem exists_carried (mark : Highlight → Option Mark) (highlights : List Highlight) :
    ∃ carried : List (List (Nat × Mark)),
      carried.map (List.map Prod.snd) =
        (Strip.pack (highlights.filterMap mark)).flatMap Strip.runs ∧
      carried.flatten.Perm (numberedMarks mark highlights) ∧
      List.Forall₂ (fun marks line => ∀ p ∈ marks, ShowsAt line p.2.column p.2.glyph) carried
        ((Strip.pack (highlights.filterMap mark)).flatMap Strip.lines) := by
  have hperm : ((Strip.pack (highlights.filterMap mark)).flatMap Strip.runs).flatten.Perm
      ((numberedMarks mark highlights).map Prod.snd) := by
    rw [Strip.flatten_runs, map_snd_numberedMarks]
    exact Strip.marks_pack_perm _
  obtain ⟨carried, hmap, hcarried⟩ := exists_labels hperm
  refine ⟨carried, hmap, hcarried, ?_⟩
  have hlines : List.Forall₂ (fun marks line => ∀ m ∈ marks, ShowsAt line m.column m.glyph)
      ((Strip.pack (highlights.filterMap mark)).flatMap Strip.runs)
      ((Strip.pack (highlights.filterMap mark)).flatMap Strip.lines) := by
    have hordered := @Strip.ordered_of_mem_pack (highlights.filterMap mark)
    generalize Strip.pack (highlights.filterMap mark) = strips at hordered
    induction strips with
    | nil => exact .nil
    | cons s strips ih =>
      have hfirst := (hordered s (by simp)).forall₂_runs
      exact List.rel_append hfirst (ih fun t ht => hordered t (by simp [ht]))
  rw [← hmap, List.forall₂_map_left_iff] at hlines
  apply hlines.imp
  intro marks line hshown p hp
  exact hshown p.2 (List.mem_map_of_mem hp)

/-- The output column at which a row prints a character of its line. -/
def charColumn (margin lead : Nat) (row : Row) (i : Nat) : Nat :=
  margin + 3 + (lead + (i - row.start))

theorem showsAt_print_row {l : Layout} {margin : Nat} (hl : l.margin = margin)
    {number : Option Int} (hn : (number.elim [] decimal).length ≤ margin) (cutStart : Bool)
    (chars : List Char) (row : Row) (cutAfter : Bool) {i : Nat} (hi : i < chars.length)
    (hstart : row.start ≤ i) (hstop : i < row.stop) :
    ShowsAt (BlockLine.print l (.row number (decide (0 < row.start) || cutStart)
        (l.glyphs.display ((chars.take row.stop).drop row.start)) cutAfter))
      (charColumn margin (l.lead cutStart row) row i) [l.glyphs.displayChar chars[i]] := by
  obtain ⟨left, right, he, hleft, -⟩ := BlockLine.print_row hl hn
    (decide (0 < row.start) || cutStart)
    (l.glyphs.display ((chars.take row.stop).drop row.start)) cutAfter
  have hshown : ShowsAt (BlockLine.print l (.row number (decide (0 < row.start) || cutStart)
      (l.glyphs.display ((chars.take row.stop).drop row.start)) cutAfter)) left.length
      (l.glyphs.display ((chars.take row.stop).drop row.start)) := ⟨left, right, he, rfl⟩
  have hlen : i - row.start < (l.glyphs.display ((chars.take row.stop).drop row.start)).length := by
    simp only [Glyphs.length_display, List.length_drop, List.length_take]
    omega
  have hchar := hshown.getElem (i - row.start) hlen
  have hcolumn : left.length + (i - row.start) = charColumn margin (l.lead cutStart row) row i := by
    rw [hleft, charColumn, Nat.add_assoc (margin + 3)]
    rfl
  have hget : (l.glyphs.display ((chars.take row.stop).drop row.start))[i - row.start] =
      l.glyphs.displayChar chars[i] := by
    simp only [Glyphs.display, List.getElem_map, List.getElem_drop, List.getElem_take]
    congr 2
    omega
  rwa [hcolumn, hget] at hchar

/-- The columns of a run, counted from the left edge: those at which the row prints the highlighted
characters, and those of the ellipsis before them if the run comes from an earlier row. -/
theorem occupies_iff_charColumn {l : Layout} {length lead : Nat} {row : Row} {h : Highlight}
    (hr : Layout.RunShows length row h) (hlt : h.firstOn length < h.stopOn length)
    (hrow : row.start < row.stop) (margin : Nat) {column : Nat} :
    (margin + 3 + (l.runMark length row lead h).column ≤ column ∧
      column < margin + 3 + (l.runMark length row lead h).column +
        (l.runMark length row lead h).glyph.length) ↔
      h.firstOn length < row.start ∧ margin + 3 ≤ column ∧ column < margin + 3 + lead ∨
      ∃ i, row.start ≤ i ∧ i < row.stop ∧ h.Covers length i ∧
        column = charColumn margin lead row i := by
  have hocc : (l.runMark length row lead h).Occupies (column - (margin + 3)) ↔ _ :=
    l.occupies_runMark _ hr hlt hrow
  unfold Mark.Occupies at hocc
  unfold charColumn
  constructor
  · rintro ⟨hge, hless⟩
    rcases hocc.mp ⟨by omega, by omega⟩ with ⟨hb, hc⟩ | ⟨i, hi, hlast, hcov, hc⟩
    · exact .inl ⟨hb, by omega, by omega⟩
    · exact .inr ⟨i, hi, hlast, hcov, by omega⟩
  · rintro (⟨hb, hge, hless⟩ | ⟨i, hi, hlast, hcov, hc⟩)
    · have := hocc.mpr (.inl ⟨hb, by omega⟩)
      omega
    · have := hocc.mpr (.inr ⟨i, hi, hlast, hcov, by omega⟩)
      omega

theorem mem_highlightsOn {e : Excerpt} {i : Nat} {h : Highlight} :
    h ∈ highlightsOn e i ↔ h ∈ e.highlights ∧ h.line = i := by
  rw [highlightsOn, (List.mergeSort_perm _ _).mem_iff, List.mem_filter, beq_iff_eq]

theorem exists_printed_strip (l : Layout) {drawn : List (List Char)} {q : Nat} {line : List Char}
    (hq : drawn[q]? = some line) {column : Nat} {text : List Char} (h : ShowsAt line column text) :
    ∃ printed, (drawn.map fun line => BlockLine.print l (.strip line))[q]? = some printed ∧
      ShowsAt printed (l.margin.toNat + 3 + column) text := by
  obtain ⟨left, he, hleft⟩ := BlockLine.print_strip_eq l line
  refine ⟨BlockLine.print l (.strip line), by rw [List.getElem?_map, hq]; rfl, ?_⟩
  rw [he, ← hleft]
  exact h.append_left left

theorem showsAt_print_strips {l : Layout} {margin : Nat} (hl : l.margin = margin)
    {drawn : List (List Char)} {q : Nat} {line : List Char} (hq : drawn[q]? = some line)
    {column : Nat} {glyph : List Char} (h : ShowsAt line column glyph) :
    ∃ printed, (drawn.map fun line => BlockLine.print l (.strip line))[q]? = some printed ∧
      ShowsAt printed (margin + 3 + column) glyph := by
  have hprinted := exists_printed_strip l hq h
  rwa [hl] at hprinted

theorem print_drawnRow (l : Layout) (e : Excerpt) (i : Nat) (chars : List Char) (row : Row) :
    (drawnRow l e i chars row).map (BlockLine.print l) =
      BlockLine.print l (.row (e.lineNumber.map (· + (i : Int)))
        (decide (0 < row.start) || (i == 0 && decide (0 < e.firstLineOffset)))
        (l.glyphs.display ((chars.take row.stop).drop row.start))
        (decide (row.stop < chars.length))) ::
      ((rowStrips l (highlightsOn e i) chars.length row
        (l.lead (i == 0 && decide (0 < e.firstLineOffset)) row)).flatMap Strip.lines).map
          fun drawn => BlockLine.print l (.strip drawn) := by
  rw [drawnRow, rowLines, List.map_cons, List.map_flatMap, List.map_flatMap]
  simp only [List.map_map]
  rfl

/-- Under every row that shows highlighted characters, exactly one line of the strips carries the
glyphs of their highlight. The glyphs take the columns at which the row prints these characters, and
besides them at most those of the ellipsis before the characters that an earlier row has left. -/
theorem run_under_characters (o : Options) (margin : Nat) (e : Excerpt) (hm : e.margin ≤ margin)
    (hn : ∀ n, e.lineNumber = some n → 1 ≤ n)
    (hnn : ∀ h ∈ e.highlights, 0 ≤ h.offset ∧ 0 ≤ h.length) (i : Nat)
    (hi : i < e.logicalLines.length) (row : Row)
    (hrow : row ∈ rowsOn (.ofOptions margin o) e i e.logicalLines[i]) :
    let l := Layout.ofOptions margin o
    let chars := e.logicalLines[i]
    let lead := l.lead (i == 0 && decide (0 < e.firstLineOffset)) row
    let mark := l.mark? chars.length row lead
    ∃ (text : List Char) (strips : List (List Char)),
      (drawnRow l e i chars row).map (BlockLine.print l) = text :: strips ∧
      (∀ j (hj : j < chars.length), row.start ≤ j → j < row.stop →
        ShowsAt text (charColumn margin lead row j) [l.glyphs.displayChar chars[j]]) ∧
      ∃ carried : List (List (Nat × Mark)), carried.length = strips.length ∧
        carried.map (List.map Prod.snd) =
          (rowStrips l (highlightsOn e i) chars.length row lead).flatMap Strip.runs ∧
        carried.flatten.Perm (numberedMarks mark (highlightsOn e i)) ∧
        ∀ (k : Nat) h, (highlightsOn e i)[k]? = some h →
          (∃ j, row.start ≤ j ∧ j < row.stop ∧ h.Covers chars.length j) →
          ∃ m, mark h = some m ∧
            (∃! q : Nat, ∃ marks, carried[q]? = some marks ∧ (k, m) ∈ marks) ∧
            (∀ (q : Nat) marks, carried[q]? = some marks → (k, m) ∈ marks →
              ∃ drawn, strips[q]? = some drawn ∧
                ShowsAt drawn (margin + 3 + m.column) m.glyph) ∧
            ∀ column,
              (margin + 3 + m.column ≤ column ∧
                column < margin + 3 + m.column + m.glyph.length) ↔
              h.firstOn chars.length < row.start ∧
                margin + 3 ≤ column ∧ column < margin + 3 + lead ∨
              ∃ j, row.start ≤ j ∧ j < row.stop ∧ h.Covers chars.length j ∧
                column = charColumn margin lead row j := by
  intro l chars lead mark
  have hnumber := Excerpt.length_number_le hm hn hi
  obtain ⟨carried, hmap, hperm, hshown⟩ := exists_carried mark (highlightsOn e i)
  refine ⟨_, _, print_drawnRow l e i chars row, ?_, carried, ?_, hmap, hperm, ?_⟩
  · intro j hj hstart hstop
    exact showsAt_print_row rfl hnumber _ chars row _ hj hstart hstop
  · rw [List.length_map]
    exact hshown.length_eq
  · rintro k h hget ⟨j, hj, hjlast, hcov⟩
    have hh : h ∈ highlightsOn e i := List.mem_of_getElem? hget
    obtain ⟨h0, -⟩ := hnn h (mem_highlightsOn.mp hh).1
    have hlt : h.firstOn chars.length < h.stopOn chars.length := by
      unfold Highlight.Covers at hcov
      omega
    have hne := (start_lt_stop_of_run hh h0 hlt).2 row hrow
    have hshows := (runShows_iff hh h0 hlt row hrow).mpr ⟨j, hj, hjlast, hcov⟩
    have hmark : mark h = some (l.runMark chars.length row lead h) := by
      rw [show mark h = _ from l.mark?_of_run (Int.ne_of_lt hlt), if_pos hshows]
    have hmem : (k, l.runMark chars.length row lead h) ∈ carried.flatten :=
      hperm.mem_iff.mpr (mem_numberedMarks.mpr ⟨h, hget, hmark⟩)
    refine ⟨_, hmark, ?_, ?_, fun column => occupies_iff_charColumn hshows hlt hne margin⟩
    · obtain ⟨marks, hmarks, hk⟩ := List.mem_flatten.mp hmem
      obtain ⟨q, hq⟩ := List.getElem?_of_mem hmarks
      have hnodup := hperm.nodup_iff.mpr (nodup_numberedMarks mark (highlightsOn e i))
      refine ⟨q, ⟨marks, hq, hk⟩, ?_⟩
      rintro p ⟨others, hp, hkp⟩
      exact index_unique hnodup hp hq hkp hk
    · intro q marks hq hk
      obtain ⟨hqlt, rfl⟩ := List.getElem?_eq_some_iff.mp hq
      have hqlines := hshown.length_eq ▸ hqlt
      have hat := hshown.get hqlt hqlines
      exact showsAt_print_strips (l := l) rfl (List.getElem?_eq_getElem hqlines) (hat _ hk)

def crossingExcerpt : Excerpt where
  lineNumber := some 9
  text := .owned "let total = price * count".toList
  highlights := [⟨0, 12, 13, none⟩]

/-- Under the second row the glyphs start below the ellipsis. -/
theorem run_under_characters_crossing :
    crossingExcerpt.margin ≤ 1 ∧
    ∃ (hi : 0 < crossingExcerpt.logicalLines.length) (text : List Char)
      (strips : List (List Char)),
      ⟨21, 25⟩ ∈ rowsOn (.ofOptions 1 { maxColumns := 20 }) crossingExcerpt 0
        crossingExcerpt.logicalLines[0] ∧
      (drawnRow (.ofOptions 1 { maxColumns := 20 }) crossingExcerpt 0
        crossingExcerpt.logicalLines[0] ⟨21, 25⟩).map
          (BlockLine.print (.ofOptions 1 { maxColumns := 20 })) = text :: strips ∧
      ∃ drawn ∈ strips, ShowsAt drawn 4 "────╴".toList := by
  have hm : crossingExcerpt.margin ≤ 1 := by decide
  have hn : ∀ n, crossingExcerpt.lineNumber = some n → 1 ≤ n := by
    intro n hline
    obtain rfl : 9 = n := Option.some.inj hline
    decide
  have hnn : ∀ h ∈ crossingExcerpt.highlights, 0 ≤ h.offset ∧ 0 ≤ h.length := by
    intro h hh
    rw [List.mem_singleton.mp hh]
    decide
  have hi : 0 < crossingExcerpt.logicalLines.length := by decide
  have hrows : (rowsOn (.ofOptions 1 { maxColumns := 20 }) crossingExcerpt 0
      crossingExcerpt.logicalLines[0])[1]? = some ⟨21, 25⟩ := by cbv
  have hrow := List.mem_of_getElem? hrows
  have hcov : (⟨0, 12, 13, none⟩ : Highlight).Covers crossingExcerpt.logicalLines[0].length 21 := by
    have hlen : crossingExcerpt.logicalLines[0].length = 25 := by cbv
    rw [hlen]
    constructor <;> decide
  obtain ⟨text, strips, hprint, -, carried, -, -, -, hruns⟩ :=
    run_under_characters { maxColumns := 20 } 1 crossingExcerpt hm hn hnn 0 hi _ hrow
  obtain ⟨m, hmark, ⟨q, ⟨marks, hq, hk⟩, -⟩, hshown, -⟩ :=
    hruns 0 ⟨0, 12, 13, none⟩ (by cbv) ⟨21, by decide, by decide, hcov⟩
  obtain ⟨drawn, hdrawn, hat⟩ := hshown q marks hq hk
  obtain rfl : m = { column := 0, glyph := "────╴".toList, comment := [] } := by
    have : some m = _ := hmark.symm.trans (by cbv)
    exact Option.some.inj this
  exact ⟨hm, hi, text, strips, hrow, hprint, drawn, List.mem_of_getElem? hdrawn, hat⟩

end SourceReport.Frame

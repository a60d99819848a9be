import SourceReport.Proofs.Frame.Alignment

namespace SourceReport

def Highlight.dropBlank (h : Highlight) : Highlight :=
  { h with comment := h.comment.filter fun c => !Text.isBlankText c }

namespace Frame
open Text

theorem Layout.withComment_filter (l : Layout) (column : Nat) (glyph : List Char)
    (comment : Option (List Char)) :
    l.withComment column glyph (comment.filter fun c => !isBlankText c) =
      l.withComment column glyph comment := by
  cases comment with
  | none => rfl
  | some comment => cases hb : isBlankText comment <;> simp [Layout.withComment, Option.filter, hb]

theorem drawnAlike_dropBlank (l : Layout) (length : Nat) :
    DrawnAlike l length Highlight.dropBlank := by
  refine ⟨fun _ => rfl, fun _ => rfl, ?_⟩
  intro row lead h
  have hcomment (after : Bool) : (if after then none else h.dropBlank.comment) =
      (if after then none else h.comment).filter fun c => !isBlankText c := by
    cases after <;> rfl
  unfold Layout.mark?
  simp only [hcomment, Layout.withComment_filter]
  rw [show h.dropBlank.comment = h.comment.filter fun c => !isBlankText c from rfl,
    Layout.withComment_filter]
  rfl

theorem highlightsOn_map_dropBlank (e : Excerpt) (k : Nat) :
    highlightsOn { e with highlights := e.highlights.map Highlight.dropBlank } k =
      (highlightsOn e k).map Highlight.dropBlank := by
  rw [highlightsOn, highlightsOn, List.filter_map]
  symm
  apply List.map_mergeSort
  exact fun _ _ _ _ => rfl

theorem drawnLines_map_dropBlank (o : Options) (note : Option (List Char))
    (placement : Placement) (e : Excerpt) :
    ({ e with highlights := e.highlights.map Highlight.dropBlank } : Excerpt).drawnLines note
      placement o = e.drawnLines note placement o := by
  have hlocator := e.locator_map Highlight.dropBlank (fun _ => rfl) (fun _ => rfl)
  apply drawnLines_congr o note placement hlocator
  intro l k
  symm
  exact linePart_of_map (fun line _ => drawnAlike_dropBlank l line.length) rfl rfl rfl
    (highlightsOn_map_dropBlank e k).symm

namespace Mark

def commentRow (m : Mark) : Nat := if m.below.isSome then 1 else 0

theorem exists_cell_of_comment {m : Mark} {i : Nat} {piece : List Char}
    (h : m.comment[i]? = some piece) :
    ∃ before, ∃ c ∈ m.cells, c.row = m.commentRow + i ∧ c.text = before ++ piece ∧
      c.column + before.length = m.commentColumn := by
  have hrest {column : Nat} {lines : List (List Char)} {j : Nat} (hj : lines[j]? = some piece) :
      (⟨j + 1, column, piece⟩ : Cell) ∈
        lines.mapIdx fun i line => (⟨i + 1, column, line⟩ : Cell) := by
    obtain ⟨hlt, rfl⟩ := List.getElem?_eq_some_iff.mp hj
    exact List.mem_mapIdx.mpr ⟨j, hlt, rfl⟩
  unfold cells
  split
  · rename_i column hb
    refine ⟨[], _, List.mem_cons_of_mem _ (hrest h), ?_, rfl, ?_⟩
    · simp [commentRow, hb, Nat.add_comm]
    · simp [commentColumn, hb]
  · rename_i hm
    simp [hm] at h
  · rename_i first rest hb hm
    rw [hm] at h
    cases i with
    | zero =>
      obtain rfl : first = piece := Option.some.inj h
      refine ⟨m.glyph ++ [' '], _, List.mem_cons_self .., ?_, by simp, ?_⟩
      · simp [commentRow, hb]
      · simp [commentColumn, hb, Nat.add_assoc]
    | succ j =>
      refine ⟨[], _, List.mem_cons_of_mem _ (hrest h), ?_, rfl, rfl⟩
      simp [commentRow, hb]

end Mark

/-- The columns beside the glyphs of a mark, without the one that stays free between. -/
def Layout.beside (l : Layout) (m : Mark) : Int := l.width - (m.column + m.glyph.length + 1 : Nat)

/-- Whether a mark holds all of a comment, set in pieces for the columns there are. -/
structure Mark.Holds (l : Layout) (comment : List Char) (m : Mark) : Prop where
  comment_ne_nil : m.comment ≠ []
  /-- Nothing is left out but white space, nothing is added, and the order is kept. -/
  ink_eq : Fill.ink m.comment.flatten = Fill.ink (l.glyphs.display comment)
  commentRow_eq : m.commentRow = if (leastBudget : Int) ≤ l.beside m then 0 else 1
  commentColumn_eq : (m.commentColumn : Int) =
    if (leastBudget : Int) ≤ l.beside m then ((m.column + m.glyph.length + 1 : Nat) : Int)
    else max 0 (min (m.column : Int) (l.width - leastBudget))
  length_le : ∀ piece ∈ m.comment, (piece.length : Int) ≤ max 1 (l.width - m.commentColumn)

theorem holds_withComment (o : Options) (margin : Int) (column : Nat) (glyph : List Char)
    {comment : List Char} (h : isBlankText comment = false) :
    ((Layout.ofOptions margin o).withComment column glyph (some comment)).Holds
      (.ofOptions margin o) comment := by
  have hne := comment_withComment_ne_nil o margin column glyph h
  generalize Layout.ofOptions margin o = l at hne ⊢
  have hwrap (width : Nat) := Fill.ink_flatten_wrap width (l.glyphs.display comment)
  by_cases hroom : (leastBudget : Int) ≤ l.width - (column + glyph.length + 1 : Nat)
  · have hm : l.withComment column glyph (some comment) =
        { column, glyph, comment := Fill.wrap (l.width - (column + glyph.length + 1 : Nat)).toNat
            (l.glyphs.display comment) } := by
      simp only [Layout.withComment, h, Bool.false_eq_true, if_false, if_pos hroom]
    rw [hm] at hne ⊢
    refine ⟨hne, hwrap _, (if_pos hroom).symm, (if_pos hroom).symm, fun piece hp => ?_⟩
    have hlen := Fill.length_le_of_mem_wrap _ _ piece hp
    simp only [Mark.commentColumn, Option.getD_none]
    omega
  · have hm : l.withComment column glyph (some comment) =
        { column, glyph
          comment := Fill.wrap (l.width - min column (l.width - leastBudget).toNat).toNat
            (l.glyphs.display comment)
          below := some (min column (l.width - leastBudget).toNat) } := by
      simp only [Layout.withComment, h, Bool.false_eq_true, if_false, if_neg hroom]
    rw [hm] at hne ⊢
    refine ⟨hne, hwrap _, (if_neg hroom).symm, ?_, fun piece hp => ?_⟩
    · refine Eq.trans ?_ (if_neg hroom).symm
      simp only [Mark.commentColumn, Option.getD_some]
      omega
    · have hlen := Fill.length_le_of_mem_wrap _ _ piece hp
      simp only [Mark.commentColumn, Option.getD_some]
      omega

theorem mark?_eq_withComment {l : Layout} {length lead : Nat} {row : Row} {h : Highlight}
    {m : Mark} (hm : l.mark? length row lead h = some m) :
    m = l.withComment m.column m.glyph
      (if h.stopOn length ≤ row.stop then h.comment else none) := by
  rcases l.mark?_eq_some_iff.mp hm with ⟨heq, hp, rfl⟩ | ⟨-, -, rfl⟩
  · have hle : h.stopOn length ≤ row.stop := by
      unfold Layout.PointShows at hp
      omega
    simp only [Layout.pointMark, Layout.withComment_column, Layout.withComment_glyph, if_pos hle]
  · have hafter : (if decide ((row.stop : Int) < h.stopOn length) then none else h.comment) =
        if h.stopOn length ≤ row.stop then h.comment else none := by
      by_cases hle : h.stopOn length ≤ row.stop
      · simp [hle, Int.not_lt.mpr hle]
      · simp [hle, Int.not_le.mp hle]
    simp only [Layout.runMark, Layout.withComment_column, Layout.withComment_glyph, hafter]

/-- Whether lines show texts one below the other, a text on each line from one line on. All start
in the same column, and each has a space or nothing after it. -/
def ShowsBelow (lines : List (List Char)) (first column : Nat) (texts : List (List Char)) : Prop :=
  ∀ (i : Nat) text, texts[i]? = some text →
    ∃ line, lines[first + i]? = some line ∧ ShowsApart line column text

namespace Strip

theorem getElem?_lines {s : Strip} {m : Mark} (hm : m ∈ s.marks) {c : Cell} (hc : c ∈ m.cells) :
    s.lines[c.row]? = some (drawRow (s.cells.filter (·.row == c.row))) := by
  have hcell : c ∈ s.cells := List.mem_flatMap.mpr ⟨m, hm, hc⟩
  have hlt : c.row < s.height :=
    Nat.lt_succ_of_le ((le_foldl_max _ 0).2 _ (List.mem_map_of_mem hcell))
  rw [lines, List.getElem?_map, List.getElem?_range hlt]
  rfl

theorem Ordered.showsBelow_comment {s : Strip} (h : s.Ordered) {m : Mark} (hm : m ∈ s.marks) :
    ShowsBelow s.lines m.commentRow m.commentColumn m.comment := by
  intro i piece hpiece
  obtain ⟨before, c, hc, hrow, htext, hcolumn⟩ := Mark.exists_cell_of_comment hpiece
  have hstop : c.stop < m.endColumn := by
    have hend := Mark.comment_lt_endColumn (List.mem_of_getElem? hpiece)
    rw [Cell.stop, htext, List.length_append, ← Nat.add_assoc, hcolumn]
    exact hend
  have hshown := h.showsApart_drawRow hm hc hstop
  rw [htext] at hshown
  rw [← hrow, ← hcolumn]
  exact ⟨_, getElem?_lines hm hc, hshown.right⟩

theorem Ordered.apart_of_mem_runs {s : Strip} (h : s.Ordered) {carried : List Mark}
    (hc : carried ∈ s.runs) : carried.Pairwise fun a b => a.endColumn ≤ b.startColumn := by
  rcases List.mem_cons.mp hc with rfl | hc
  · exact h.apart
  · rw [(List.mem_replicate.mp hc).2]
    exact .nil

theorem length_runs (s : Strip) : s.runs.length = s.lines.length := by
  rw [length_lines]
  simp [runs, height]

theorem exists_of_mem_runs {strips : List Strip} {q : Nat} {carried : List Mark}
    (hq : (strips.flatMap runs)[q]? = some carried) {m : Mark} (hm : m ∈ carried) :
    ∃ s ∈ strips, m ∈ s.marks ∧
      ∀ (i : Nat) line, s.lines[i]? = some line →
        (strips.flatMap lines)[q + i]? = some line := by
  induction strips generalizing q with
  | nil => simp at hq
  | cons s strips ih =>
    rw [List.flatMap_cons] at hq
    by_cases hlt : q < s.runs.length
    · rw [List.getElem?_append_left hlt] at hq
      cases q with
      | zero =>
        obtain rfl : s.marks = carried := Option.some.inj hq
        refine ⟨s, by simp, hm, fun i line hi => ?_⟩
        obtain ⟨hi', -⟩ := List.getElem?_eq_some_iff.mp hi
        rw [List.flatMap_cons, Nat.zero_add, List.getElem?_append_left hi', hi]
      | succ q =>
        -- no mark is carried by the lines after the first
        rw [runs, List.getElem?_cons_succ] at hq
        rw [(List.mem_replicate.mp (List.mem_of_getElem? hq)).2] at hm
        cases hm
    · rw [List.getElem?_append_right (by omega)] at hq
      obtain ⟨t, ht, hmt, hlines⟩ := ih hq
      refine ⟨t, by simp [ht], hmt, fun i line hi => ?_⟩
      have hlen := s.length_runs
      rw [List.flatMap_cons, List.getElem?_append_right (by omega), ← hlines i line hi]
      congr 1
      omega

theorem showsBelow_flatMap_lines {strips : List Strip} (h : ∀ s ∈ strips, s.Ordered) {q : Nat}
    {carried : List Mark} (hq : (strips.flatMap runs)[q]? = some carried) {m : Mark}
    (hm : m ∈ carried) :
    ShowsBelow (strips.flatMap lines) (q + m.commentRow) m.commentColumn m.comment := by
  obtain ⟨s, hs, hms, hlines⟩ := exists_of_mem_runs hq hm
  intro i piece hpiece
  obtain ⟨line, hline, hshown⟩ := (h s hs).showsBelow_comment hms i piece hpiece
  refine ⟨line, ?_, hshown⟩
  rw [Nat.add_assoc]
  exact hlines _ _ hline

end Strip

theorem ShowsBelow.print_strips {drawn : List (List Char)} {first column : Nat}
    {texts : List (List Char)} (h : ShowsBelow drawn first column texts) (l : Layout) :
    ShowsBelow (drawn.map fun line => BlockLine.print l (.strip line)) first
      (l.margin.toNat + 3 + column) texts := by
  intro i text htext
  obtain ⟨line, hline, hshown⟩ := h i text htext
  obtain ⟨left, he, hleft⟩ := BlockLine.print_strip_eq l line
  refine ⟨BlockLine.print l (.strip line), by rw [List.getElem?_map, hline]; rfl, ?_⟩
  rw [he, ← hleft]
  exact hshown.append_left left

theorem existsUnique_carried {mark : Highlight → Option Mark} {highlights : List Highlight}
    {carried : List (List (Nat × Mark))}
    (hperm : carried.flatten.Perm (numberedMarks mark highlights)) {n : Nat} {h : Highlight}
    {m : Mark} (hget : highlights[n]? = some h) (hmark : mark h = some m) :
    ∃! q : Nat, ∃ marks, carried[q]? = some marks ∧ (n, m) ∈ marks := by
  have hmem : (n, m) ∈ carried.flatten :=
    hperm.mem_iff.mpr (mem_numberedMarks.mpr ⟨h, hget, hmark⟩)
  obtain ⟨marks, hmarks, hn⟩ := List.mem_flatten.mp hmem
  obtain ⟨q, hq⟩ := List.getElem?_of_mem hmarks
  refine ⟨q, ⟨marks, hq, hn⟩, ?_⟩
  rintro p ⟨others, hp, hnp⟩
  exact index_unique (hperm.nodup_iff.mpr (nodup_numberedMarks mark highlights)) hp hq hnp hn

/-- Where a row shows the stop of a highlight with a comment, all of the comment is shown, in pieces
one below the other: from the line of the glyphs on, if that has room for it, else from the next.
A blank comment shows as none does. -/
theorem comments_shown_whole (o : Options) (margin : Int) (e : Excerpt) :
    let l := Layout.ofOptions margin o
    (∀ (k : Nat) (chars : List Char) (row : Row),
      let lead := l.lead (k == 0 && decide (0 < e.firstLineOffset)) row
      let mark := l.mark? chars.length row lead
      ∃ (text : List Char) (strips : List (List Char)) (carried : List (List (Nat × Mark))),
        (drawnRow l e k chars row).map (BlockLine.print l) = text :: strips ∧
        carried.length = strips.length ∧
        carried.map (List.map Prod.snd) =
          (rowStrips l (highlightsOn e k) chars.length row lead).flatMap Strip.runs ∧
        carried.flatten.Perm (numberedMarks mark (highlightsOn e k)) ∧
        (∀ marks ∈ carried, marks.Pairwise fun a b => a.2.endColumn ≤ b.2.startColumn) ∧
        ∀ (n : Nat) h comment m, (highlightsOn e k)[n]? = some h → h.comment = some comment →
          isBlankText comment = false → mark h = some m →
          (row.stop < h.stopOn chars.length → m.comment = []) ∧
          (h.stopOn chars.length ≤ row.stop → m.Holds l comment ∧
            (∃! q : Nat, ∃ marks, carried[q]? = some marks ∧ (n, m) ∈ marks) ∧
            ∀ (q : Nat) marks, carried[q]? = some marks → (n, m) ∈ marks →
              (∃ line, strips[q]? = some line ∧
                ShowsAt line (margin.toNat + 3 + m.column) m.glyph) ∧
              ShowsBelow strips (q + m.commentRow) (margin.toNat + 3 + m.commentColumn)
                m.comment)) ∧
    ∀ others, others.map Highlight.dropBlank = e.highlights.map Highlight.dropBlank →
      ∀ note placement,
        ({ e with highlights := others } : Excerpt).drawnLines note placement o =
          e.drawnLines note placement o := by
  intro l
  refine ⟨fun k chars row => ?_, fun others h note placement => ?_⟩
  · intro lead mark
    obtain ⟨carried, hmap, hperm, hshown⟩ := exists_carried mark (highlightsOn e k)
    refine ⟨_, _, carried, print_drawnRow l e k chars row, ?_, hmap, hperm, ?_, ?_⟩
    · rw [List.length_map]
      exact hshown.length_eq
    · intro marks hmarks
      have hruns := List.mem_map_of_mem (f := List.map Prod.snd) hmarks
      rw [hmap] at hruns
      obtain ⟨s, hs, hruns⟩ := List.mem_flatMap.mp hruns
      exact List.pairwise_map.mp ((Strip.ordered_of_mem_pack s hs).apart_of_mem_runs hruns)
    · intro n h comment m hget hcomment hblank hmark
      have hm := mark?_eq_withComment hmark
      refine ⟨fun hlt => ?_, fun hle => ⟨?_, existsUnique_carried hperm hget hmark, ?_⟩⟩
      · rw [hm, if_neg (Int.not_le.mpr hlt), Layout.withComment_none]
      · rw [hm, if_pos hle, hcomment]
        exact holds_withComment o margin m.column m.glyph hblank
      · intro q marks hq hn
        obtain ⟨hqlt, hqmarks⟩ := List.getElem?_eq_some_iff.mp hq
        have hqlines := hshown.length_eq ▸ hqlt
        have hglyph := hshown.get hqlt hqlines (n, m) (by
          rw [List.get_eq_getElem, hqmarks]
          exact hn)
        have hruns : ((Strip.pack ((highlightsOn e k).filterMap mark)).flatMap Strip.runs)[q]? =
            some (marks.map Prod.snd) := by
          rw [← hmap, List.getElem?_map, hq]
          rfl
        have hbelow := Strip.showsBelow_flatMap_lines Strip.ordered_of_mem_pack hruns
          (List.mem_map_of_mem hn)
        exact ⟨exists_printed_strip l (List.getElem?_eq_getElem hqlines) hglyph,
          hbelow.print_strips l⟩
  · have hothers := drawnLines_map_dropBlank o note placement { e with highlights := others }
    rw [← drawnLines_map_dropBlank o note placement e, ← h]
    exact hothers.symm

def commentedExcerpt : Excerpt where
  text := .owned "x".toList
  highlights := [⟨0, 0, 1, some "alpha beta gamma".toList⟩, ⟨0, 1, 0, some " ".toList⟩]

/-- The second piece stands below the first one. -/
theorem comments_shown_whole_beside :
    let l := Layout.ofOptions 0 { maxColumns := 20 }
    let h : Highlight := ⟨0, 0, 1, some "alpha beta gamma".toList⟩
    let others : List Highlight := [h, ⟨0, 1, 0, none⟩]
    (highlightsOn commentedExcerpt 0)[0]? = some h ∧
    isBlankText "alpha beta gamma".toList = false ∧
    h.stopOn 1 ≤ (⟨0, 1⟩ : Row).stop ∧
    (∃ (text : List Char) (strips : List (List Char)) (q : Nat),
      (drawnRow l commentedExcerpt 0 "x".toList ⟨0, 1⟩).map (BlockLine.print l) = text :: strips ∧
      ShowsBelow strips q 5 ["alpha beta".toList, "gamma".toList]) ∧
    ∀ note placement, ({ commentedExcerpt with highlights := others } : Excerpt).drawnLines note
      placement { maxColumns := 20 } =
        commentedExcerpt.drawnLines note placement { maxColumns := 20 } := by
  intro l h others
  have hget : (highlightsOn commentedExcerpt 0)[0]? = some h := by cbv
  have hblank : isBlankText "alpha beta gamma".toList = false := by decide
  have hstop : h.stopOn 1 ≤ (⟨0, 1⟩ : Row).stop := by decide
  have hmark : l.mark? "x".toList.length ⟨0, 1⟩ 0 h =
      some { column := 0, glyph := ['⁃'], comment := ["alpha beta".toList, "gamma".toList] } := by
    cbv
  obtain ⟨hshown, hothers⟩ := comments_shown_whole { maxColumns := 20 } 0 commentedExcerpt
  obtain ⟨text, strips, carried, hprint, -, -, -, -, hpieces⟩ := hshown 0 "x".toList ⟨0, 1⟩
  obtain ⟨-, hwhole⟩ := hpieces 0 h _ _ hget rfl hblank hmark
  obtain ⟨-, ⟨q, ⟨marks, hq, hm⟩, -⟩, hbelow⟩ := hwhole hstop
  exact ⟨hget, hblank, hstop, ⟨text, strips, q, hprint, (hbelow q marks hq hm).2⟩,
    hothers others (by decide)⟩

end Frame

end SourceReport

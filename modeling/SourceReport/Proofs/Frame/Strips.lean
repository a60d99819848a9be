import SourceReport.Frame.Strip
import Mathlib.Data.List.Basic

namespace SourceReport.Frame

def ShowsAt (line : List Char) (column : Nat) (text : List Char) : Prop :=
  ∃ before after, line = before ++ text ++ after ∧ before.length = column

theorem ShowsAt.extend {line longer text : List Char} {column : Nat}
    (h : ShowsAt line column text) (hl : line <+: longer) : ShowsAt longer column text := by
  obtain ⟨before, after, rfl, hb⟩ := h
  obtain ⟨rest, rfl⟩ := hl
  exact ⟨before, after ++ rest, by simp, hb⟩

theorem ShowsAt.append_left {line text : List Char} {column : Nat} (h : ShowsAt line column text)
    (front : List Char) : ShowsAt (front ++ line) (front.length + column) text := by
  obtain ⟨before, after, rfl, hb⟩ := h
  exact ⟨front ++ before, after, by simp, by simp [hb]⟩

theorem ShowsAt.left {line text more : List Char} {column : Nat}
    (h : ShowsAt line column (text ++ more)) : ShowsAt line column text := by
  obtain ⟨before, after, rfl, hb⟩ := h
  exact ⟨before, more ++ after, by simp, hb⟩

theorem ShowsAt.getElem {line text : List Char} {column : Nat} (h : ShowsAt line column text)
    (i : Nat) (hi : i < text.length) : ShowsAt line (column + i) [text[i]] := by
  obtain ⟨before, after, rfl, hb⟩ := h
  refine ⟨before ++ text.take i, text.drop (i + 1) ++ after, ?_, ?_⟩
  · simp only [List.append_assoc]
    rw [← List.append_assoc [text[i]], List.singleton_append, ← List.drop_eq_getElem_cons hi,
      ← List.append_assoc (text.take i), List.take_append_drop]
  · simp only [List.length_append, List.length_take, hb]
    omega

/-- Whether a line shows a text from a column on, and after it a space or nothing more. -/
def ShowsApart (line : List Char) (column : Nat) (text : List Char) : Prop :=
  ∃ before after, line = before ++ text ++ after ∧ before.length = column ∧
    ∀ c ∈ after.head?, c = ' '

theorem ShowsApart.append_left {line text : List Char} {column : Nat}
    (h : ShowsApart line column text) (front : List Char) :
    ShowsApart (front ++ line) (front.length + column) text := by
  obtain ⟨before, after, rfl, hb, hafter⟩ := h
  exact ⟨front ++ before, after, by simp, by simp [hb], hafter⟩

theorem ShowsApart.right {line before text : List Char} {column : Nat}
    (h : ShowsApart line column (before ++ text)) :
    ShowsApart line (column + before.length) text := by
  obtain ⟨left, after, rfl, hl, hafter⟩ := h
  exact ⟨left ++ before, after, by simp, by simp [hl], hafter⟩

def Cell.stop (c : Cell) : Nat := c.column + c.text.length

namespace Strip

theorem prefix_putAt (line : List Char) (c : Cell) : line <+: putAt line c :=
  ⟨_, (List.append_assoc ..).symm⟩

theorem length_putAt {line : List Char} {c : Cell} (h : line.length ≤ c.column) :
    (putAt line c).length = c.stop := by
  simp only [putAt, Cell.stop, List.length_append, List.length_replicate]
  omega

theorem showsAt_putAt {line : List Char} {c : Cell} (h : line.length ≤ c.column) :
    ShowsAt (putAt line c) c.column c.text := by
  refine ⟨line ++ List.replicate (c.column - line.length) ' ', [], by simp [putAt], ?_⟩
  simp only [List.length_append, List.length_replicate]
  omega

theorem prefix_foldl_putAt (line : List Char) (cells : List Cell) :
    line <+: cells.foldl putAt line := by
  induction cells generalizing line with
  | nil => exact List.prefix_refl line
  | cons c cs ih => exact (prefix_putAt line c).trans (ih _)

/-- Cells that start where those before them have ended are all shown at their columns, and the
line is as wide as the last of them needs. -/
theorem foldl_putAt (line : List Char) {cells : List Cell}
    (hl : ∀ c ∈ cells, line.length ≤ c.column)
    (hc : cells.Pairwise fun c d => c.stop ≤ d.column) :
    (∀ c ∈ cells, ShowsAt (cells.foldl putAt line) c.column c.text) ∧
    ∀ n, line.length ≤ n → (∀ c ∈ cells, c.stop ≤ n) → (cells.foldl putAt line).length ≤ n := by
  induction cells generalizing line with
  | nil => exact ⟨by simp, fun n hn _ => hn⟩
  | cons c cs ih =>
    obtain ⟨hfirst, hrest⟩ := List.pairwise_cons.mp hc
    have hcol := hl c (by simp)
    have hnext : ∀ d ∈ cs, (putAt line c).length ≤ d.column := by
      intro d hd
      rw [length_putAt hcol]
      exact hfirst d hd
    obtain ⟨hshown, hlen⟩ := ih _ hnext hrest
    refine ⟨?_, ?_⟩
    · intro d hd
      rcases List.mem_cons.mp hd with rfl | hd
      · exact (showsAt_putAt hcol).extend (prefix_foldl_putAt _ cs)
      · exact hshown d hd
    · intro n _ hn
      apply hlen n
      · rw [length_putAt hcol]
        exact hn c (by simp)
      · exact fun d hd => hn d (by simp [hd])

theorem exists_foldl_putAt {line : List Char} {cells : List Cell}
    (h : ∀ c ∈ cells, line.length < c.column) :
    ∃ after, cells.foldl putAt line = line ++ after ∧ ∀ c ∈ after.head?, c = ' ' := by
  cases cells with
  | nil => exact ⟨[], by simp, by simp⟩
  | cons c cs =>
    obtain ⟨rest, hrest⟩ := prefix_foldl_putAt (putAt line c) cs
    obtain ⟨n, hn⟩ := Nat.exists_eq_add_of_lt (h c (by simp))
    refine ⟨List.replicate (c.column - line.length) ' ' ++ c.text ++ rest, ?_, ?_⟩
    · rw [List.foldl_cons, ← hrest, putAt]
      simp only [List.append_assoc]
    · rw [show c.column - line.length = n + 1 by omega, List.replicate_succ]
      simp

/-- A cell stands apart if all cells after it leave a column free. -/
theorem showsApart_foldl_putAt {before after : List Cell} {c : Cell}
    (h : (before ++ c :: after).Pairwise fun c d => c.stop ≤ d.column)
    (hapart : ∀ d ∈ after, c.stop < d.column) :
    ShowsApart ((before ++ c :: after).foldl putAt []) c.column c.text := by
  obtain ⟨hbefore, -, hc⟩ := List.pairwise_append.mp h
  have hlen : (before.foldl putAt []).length ≤ c.column :=
    (foldl_putAt [] (by simp) hbefore).2 _ (Nat.zero_le _) fun d hd => hc d hd c (by simp)
  have hafter : ∀ d ∈ after, (putAt (before.foldl putAt []) c).length < d.column := by
    rw [length_putAt hlen]
    exact hapart
  obtain ⟨rest, he, hrest⟩ := exists_foldl_putAt hafter
  rw [List.foldl_append, List.foldl_cons, he]
  refine ⟨before.foldl putAt [] ++
    List.replicate (c.column - (before.foldl putAt []).length) ' ', rest, rfl, ?_, hrest⟩
  simp only [List.length_append, List.length_replicate]
  omega

end Strip

namespace Mark

theorem startColumn_le_endColumn (m : Mark) : m.startColumn ≤ m.endColumn := by
  unfold startColumn endColumn
  split <;> dsimp only <;> omega

theorem glyph_le_endColumn (m : Mark) : m.column + m.glyph.length ≤ m.endColumn := by
  unfold endColumn
  split <;> dsimp only <;> omega

theorem comment_lt_endColumn {m : Mark} {line : List Char} (h : line ∈ m.comment) :
    m.commentColumn + line.length < m.endColumn := by
  have hmem : line.length ∈ m.comment.map List.length := List.mem_map_of_mem h
  unfold endColumn
  split
  · rename_i hnone
    rw [List.max?_eq_none_iff.mp hnone] at hmem
    simp at hmem
  · rename_i widest hsome
    have := List.le_max?_getD_of_mem (k := 0) hmem
    rw [hsome, Option.getD_some] at this
    dsimp only
    omega

theorem cells_eq_cons (m : Mark) :
    ∃ beside rest, m.cells = ⟨0, m.column, m.glyph ++ beside⟩ :: rest ∧ ∀ c ∈ rest, 0 < c.row := by
  have hpos (column : Nat) (lines : List (List Char)) :
      ∀ c ∈ lines.mapIdx fun i line => (⟨i + 1, column, line⟩ : Cell), 0 < c.row := by
    intro c hc
    obtain ⟨i, _, rfl⟩ := List.mem_mapIdx.mp hc
    exact Nat.succ_pos i
  unfold cells
  split
  · exact ⟨[], _, by rw [List.append_nil], hpos _ _⟩
  · exact ⟨[], [], by rw [List.append_nil], by simp⟩
  · exact ⟨_, _, rfl, hpos _ _⟩

theorem cells_pairwise (m : Mark) : m.cells.Pairwise fun c d => c.row < d.row := by
  have hrows (column : Nat) (lines : List (List Char)) :
      (lines.mapIdx fun i line => (⟨i + 1, column, line⟩ : Cell)).Pairwise
        fun c d => c.row < d.row := by
    rw [List.pairwise_iff_getElem]
    intro i j hi hj hij
    simpa using hij
  obtain ⟨beside, rest, he, hpos⟩ := m.cells_eq_cons
  rw [he]
  refine List.pairwise_cons.mpr ⟨hpos, ?_⟩
  unfold cells at he
  split at he <;> obtain ⟨-, rfl⟩ := List.cons.inj he
  · exact hrows _ _
  · exact List.Pairwise.nil
  · exact hrows _ _

theorem cells_between (m : Mark) :
    ∀ c ∈ m.cells, m.startColumn ≤ c.column ∧ c.stop ≤ m.endColumn := by
  have hglyph := m.glyph_le_endColumn
  have hstart : m.startColumn ≤ m.column ∧ m.startColumn ≤ m.commentColumn :=
    ⟨Nat.min_le_left .., Nat.min_le_right ..⟩
  have hcomment (line : List Char) (h : line ∈ m.comment) := comment_lt_endColumn h
  intro c hc
  unfold cells at hc
  split at hc
  · rename_i column hb
    have hcol : m.commentColumn = column := by simp [commentColumn, hb]
    rcases List.mem_cons.mp hc with rfl | hc
    · exact ⟨hstart.1, hglyph⟩
    · obtain ⟨i, hi, rfl⟩ := List.mem_mapIdx.mp hc
      have := hcomment _ (List.getElem_mem hi)
      simp only [Cell.stop]
      omega
  · rcases List.mem_singleton.mp hc with rfl
    exact ⟨hstart.1, hglyph⟩
  · rename_i first rest hb hm
    have hcol : m.commentColumn = m.column + m.glyph.length + 1 := by simp [commentColumn, hb]
    rcases List.mem_cons.mp hc with rfl | hc
    · have := hcomment first (by simp [hm])
      simp only [Cell.stop, List.length_append, List.length_cons]
      omega
    · obtain ⟨i, hi, rfl⟩ := List.mem_mapIdx.mp hc
      have := hcomment rest[i] (by simp [hm])
      simp only [Cell.stop]
      omega

end Mark

namespace Strip

/-- The marks of a strip stand side by side, and more may follow them at the cursor. -/
structure Ordered (s : Strip) : Prop where
  apart : s.marks.Pairwise fun a b => a.endColumn ≤ b.startColumn
  le_cursor : ∀ m ∈ s.marks, m.endColumn ≤ s.cursor

theorem ordered_single (m : Mark) : (single m).Ordered :=
  ⟨List.pairwise_singleton _ m, by simp [single]⟩

theorem Ordered.add {s : Strip} {m : Mark} (h : s.Ordered) (hm : s.fits m = true) :
    (s.add m).Ordered := by
  have hfit : s.cursor ≤ m.startColumn := of_decide_eq_true hm
  refine ⟨?_, ?_⟩
  · apply List.pairwise_append.mpr
    refine ⟨h.apart, List.pairwise_singleton _ m, ?_⟩
    intro a ha b hb
    rw [List.mem_singleton.mp hb]
    exact Nat.le_trans (h.le_cursor a ha) hfit
  · intro a ha
    rcases List.mem_append.mp ha with ha | ha
    · exact Nat.le_trans (h.le_cursor a ha) (Nat.le_trans hfit m.startColumn_le_endColumn)
    · rw [List.mem_singleton.mp ha]
      exact Nat.le_refl m.endColumn

theorem ordered_place {m : Mark} {strips : List Strip} (h : ∀ s ∈ strips, s.Ordered) :
    ∀ s ∈ place m strips, s.Ordered := by
  induction strips with
  | nil =>
    intro s hs
    rw [List.mem_singleton.mp hs]
    exact ordered_single m
  | cons first rest ih =>
    have hfirst := h first (by simp)
    have hrest : ∀ s ∈ rest, s.Ordered := fun s hs => h s (by simp [hs])
    intro s hs
    unfold place at hs
    split at hs
    · rename_i hfit
      rcases List.mem_cons.mp hs with rfl | hs
      · exact hfirst.add hfit
      · exact hrest s hs
    · rcases List.mem_cons.mp hs with rfl | hs
      · exact hfirst
      · exact ih hrest s hs

theorem ordered_foldl_place {marks : List Mark} {strips : List Strip}
    (h : ∀ s ∈ strips, s.Ordered) :
    ∀ s ∈ marks.foldl (fun strips m => place m strips) strips, s.Ordered := by
  induction marks generalizing strips with
  | nil => exact h
  | cons m marks ih => exact ih (ordered_place h)

theorem ordered_of_mem_pack {marks : List Mark} : ∀ s ∈ pack marks, s.Ordered :=
  ordered_foldl_place (by simp)

theorem marks_place_perm (m : Mark) (strips : List Strip) :
    ((place m strips).flatMap marks).Perm (m :: strips.flatMap marks) := by
  induction strips with
  | nil => simp [place, single]
  | cons s rest ih =>
    unfold place
    split
    · simp only [List.flatMap_cons, add, List.append_assoc, List.singleton_append]
      exact List.perm_middle
    · simp only [List.flatMap_cons]
      exact (ih.append_left s.marks).trans List.perm_middle

theorem marks_foldl_place_perm (new : List Mark) (strips : List Strip) :
    ((new.foldl (fun strips m => place m strips) strips).flatMap marks).Perm
      (new ++ strips.flatMap marks) := by
  induction new generalizing strips with
  | nil => exact List.Perm.refl _
  | cons m new ih =>
    refine (ih (place m strips)).trans ?_
    exact ((marks_place_perm m strips).append_left new).trans List.perm_middle

/-- Every mark is set on a strip, and on no other as well. -/
theorem marks_pack_perm (new : List Mark) : ((pack new).flatMap marks).Perm new := by
  have h := marks_foldl_place_perm
    (new.mergeSort fun a b => decide (a.column ≤ b.column)) []
  rw [List.flatMap_nil, List.append_nil] at h
  exact h.trans (List.mergeSort_perm _ _)

theorem Ordered.cells_pairwise {s : Strip} (h : s.Ordered) :
    s.cells.Pairwise fun c d => c.row = d.row → c.stop ≤ d.column := by
  apply List.pairwise_flatMap.mpr
  refine ⟨?_, ?_⟩
  · intro m _
    apply m.cells_pairwise.imp
    intro c d hlt heq
    omega
  · apply h.apart.imp
    intro a b hab c hc d hd _
    have := (a.cells_between c hc).2
    have := (b.cells_between d hd).1
    omega

theorem Ordered.row_pairwise {s : Strip} (h : s.Ordered) (row : Nat) :
    (s.cells.filter (·.row == row)).Pairwise fun c d => c.stop ≤ d.column := by
  rw [List.pairwise_filter]
  apply h.cells_pairwise.imp
  intro c d hcd hc hd
  exact hcd ((beq_iff_eq.mp hc).trans (beq_iff_eq.mp hd).symm)

theorem Ordered.showsAt_drawRow {s : Strip} (h : s.Ordered) {c : Cell} (hc : c ∈ s.cells) :
    ShowsAt (drawRow (s.cells.filter (·.row == c.row))) c.column c.text :=
  (foldl_putAt [] (by simp) (h.row_pairwise c.row)).1 c (List.mem_filter.mpr ⟨hc, by simp⟩)

theorem Ordered.showsApart_drawRow {s : Strip} (h : s.Ordered) {m : Mark} (hm : m ∈ s.marks)
    {c : Cell} (hc : c ∈ m.cells) (hlt : c.stop < m.endColumn) :
    ShowsApart (drawRow (s.cells.filter (·.row == c.row))) c.column c.text := by
  obtain ⟨before, after, hmarks⟩ := List.append_of_mem hm
  obtain ⟨front, back, hcells⟩ := List.append_of_mem hc
  have hrow : s.cells.filter (·.row == c.row) =
      (before.flatMap Mark.cells ++ front).filter (·.row == c.row) ++
        c :: (back ++ after.flatMap Mark.cells).filter (·.row == c.row) := by
    rw [cells, hmarks, List.flatMap_append, List.flatMap_cons, hcells]
    simp [List.filter_append]
  have hpairwise := h.row_pairwise c.row
  rw [hrow] at hpairwise
  rw [drawRow, hrow]
  apply showsApart_foldl_putAt hpairwise
  intro d hd
  obtain ⟨hd, hdrow⟩ := List.mem_filter.mp hd
  rcases List.mem_append.mp hd with hd | hd
  · -- the pieces of one mark are on rows of their own
    have hrows := m.cells_pairwise
    rw [hcells] at hrows
    have hlt := (List.pairwise_cons.mp (List.pairwise_append.mp hrows).2.1).1 d hd
    exact absurd (beq_iff_eq.mp hdrow) (by omega)
  · obtain ⟨n, hn, hd⟩ := List.mem_flatMap.mp hd
    have hmarksApart := h.apart
    rw [hmarks] at hmarksApart
    have hend : m.endColumn ≤ n.startColumn :=
      (List.pairwise_cons.mp (List.pairwise_append.mp hmarksApart).2.1).1 n hn
    have hstart := (n.cells_between d hd).1
    omega

/-- The first drawn row carries the glyphs of all marks. -/
theorem Ordered.showsAt_glyph {s : Strip} (h : s.Ordered) {m : Mark} (hm : m ∈ s.marks) :
    ShowsAt (drawRow (s.cells.filter (·.row == 0))) m.column m.glyph := by
  obtain ⟨beside, rest, he, -⟩ := m.cells_eq_cons
  have hmem : (⟨0, m.column, m.glyph ++ beside⟩ : Cell) ∈ s.cells :=
    List.mem_flatMap.mpr ⟨m, hm, by simp [he]⟩
  exact (h.showsAt_drawRow hmem).left

theorem Ordered.length_le_of_mem_lines {s : Strip} (h : s.Ordered) {n : Nat}
    (hn : ∀ m ∈ s.marks, ∀ c ∈ m.cells, c.stop ≤ n) : ∀ line ∈ s.lines, line.length ≤ n := by
  intro line hl
  obtain ⟨row, -, rfl⟩ := List.mem_map.mp hl
  refine (foldl_putAt [] (by simp) (h.row_pairwise row)).2 n (Nat.zero_le n) ?_
  intro c hc
  obtain ⟨m, hm, hc⟩ := List.mem_flatMap.mp (List.mem_filter.mp hc).1
  exact hn m hm c hc

end Strip

end SourceReport.Frame

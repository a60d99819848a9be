import SourceReport.Frame.Mark
import SourceReport.Proofs.Frame.Display
import SourceReport.Proofs.Frame.Strips
import SourceReport.Proofs.Text.Filling

namespace SourceReport

namespace Highlight

/-- The first highlighted place of a line with `length` characters. -/
def firstOn (h : Highlight) (length : Nat) : Int := min h.offset length

/-- The place after the last highlighted character of a line with `length` characters. -/
def stopOn (h : Highlight) (length : Nat) : Int := min h.stop length

def Covers (h : Highlight) (length i : Nat) : Prop := h.firstOn length ≤ i ∧ i < h.stopOn length

end Highlight

namespace Frame
open Text

def Mark.Occupies (m : Mark) (column : Nat) : Prop :=
  m.column ≤ column ∧ column < m.column + m.glyph.length

@[simp] theorem length_times (n : Int) (c : Char) : (times n c).length = n.toNat := by simp [times]

theorem mem_times {n : Int} {c d : Char} : d ∈ times n c ↔ 0 < n ∧ d = c := by
  rw [times, List.mem_replicate, ← Nat.pos_iff_ne_zero, Int.lt_toNat, Int.natCast_zero]

theorem length_glyphRun (g : Glyphs) (before after : Bool) (lead : Nat) {size : Int}
    (hs : 1 ≤ size) :
    (glyphRun g before after lead size).length = (if before then lead else 0) + size.toNat := by
  cases before <;> cases after <;> simp only [glyphRun, Bool.false_eq_true, if_false, if_true]
  · split
    · subst size
      rfl
    · simp only [List.length_append, List.length_cons, List.length_nil, length_times]
      omega
  all_goals
    simp only [List.length_append, List.length_cons, List.length_nil, length_times]
    omega

theorem length_glyphRun_le (g : Glyphs) (before after : Bool) (lead : Nat) (size : Int) :
    (glyphRun g before after lead size).length ≤
      (if before then lead else 0) + max (if before || after then 1 else 2) size.toNat := by
  cases before <;> cases after <;>
    simp only [glyphRun, Bool.or_false, Bool.or_true, Bool.false_eq_true, if_false, if_true]
  · split
    · simp only [List.length_cons, List.length_nil]
      omega
    · simp only [List.length_append, List.length_cons, List.length_nil, length_times]
      omega
  all_goals
    simp only [List.length_append, List.length_cons, List.length_nil, length_times]
    omega

namespace Layout
variable (l : Layout) (column : Nat) (glyph : List Char) (comment : Option (List Char))

@[simp] theorem withComment_column : (l.withComment column glyph comment).column = column := by
  unfold withComment
  split
  · rfl
  · split
    · rfl
    · dsimp only
      split <;> rfl

@[simp] theorem withComment_glyph : (l.withComment column glyph comment).glyph = glyph := by
  unfold withComment
  split
  · rfl
  · split
    · rfl
    · dsimp only
      split <;> rfl

theorem withComment_none : l.withComment column glyph none = { column, glyph, comment := [] } := rfl

/-- No piece of a mark reaches past its glyphs, unless the width has room for it. -/
theorem stop_le_of_mem_cells_withComment :
    ∀ c ∈ (l.withComment column glyph comment).cells,
      (c.stop : Int) ≤ max ((column + glyph.length : Nat) : Int) (max 1 l.width) := by
  have plain : ∀ c ∈ ({ column, glyph, comment := [] } : Mark).cells,
      (c.stop : Int) ≤ max ((column + glyph.length : Nat) : Int) (max 1 l.width) := by
    intro c hc
    rw [List.mem_singleton.mp hc]
    exact Int.le_max_left _ _
  unfold withComment
  split
  · exact plain
  · rename_i comment
    split
    · exact plain
    · dsimp only
      split
      · rename_i hroom
        generalize hlines : Fill.wrap _ (l.glyphs.display comment) = lines
        have hle : ∀ line ∈ lines,
            line.length ≤ max 1 (l.width - (column + glyph.length + 1 : Nat)).toNat := by
          rw [← hlines]
          exact Fill.length_le_of_mem_wrap _ _
        intro c hc
        cases lines with
        | nil => exact plain c hc
        | cons first rest =>
          rcases List.mem_cons.mp hc with rfl | hc
          · have := hle first (by simp)
            simp only [leastBudget] at hroom
            simp only [Cell.stop, List.length_append, List.length_cons]
            omega
          · obtain ⟨i, hi, rfl⟩ := List.mem_mapIdx.mp hc
            have := hle rest[i] (by simp)
            simp only [leastBudget] at hroom
            simp only [Cell.stop, Mark.commentColumn, Option.getD_none]
            omega
      · have hle := Fill.length_le_of_mem_wrap
          (l.width - min column (l.width - leastBudget).toNat).toNat (l.glyphs.display comment)
        intro c hc
        rcases List.mem_cons.mp hc with rfl | hc
        · exact Int.le_max_left _ _
        · obtain ⟨i, hi, rfl⟩ := List.mem_mapIdx.mp hc
          have := hle _ (List.getElem_mem hi)
          simp only [leastBudget] at this ⊢
          simp only [Cell.stop]
          omega

variable (length : Nat) (row : Row) (lead : Nat) (h : Highlight)

def PointShows (length : Nat) (row : Row) (h : Highlight) : Prop :=
  (row.start : Int) ≤ h.firstOn length ∧ h.firstOn length < row.stop ∨
    h.firstOn length = row.stop ∧ row.stop = length

def RunShows (length : Nat) (row : Row) (h : Highlight) : Prop :=
  h.firstOn length < row.stop ∧ row.start < h.stopOn length

def pointMark : Mark :=
  l.withComment (lead + (h.firstOn length - row.start).toNat) [l.glyphs.point] h.comment

def runMark : Mark :=
  let before := decide (h.firstOn length < row.start)
  let after := decide ((row.stop : Int) < h.stopOn length)
  l.withComment (if before then 0 else lead + (h.firstOn length - row.start).toNat)
    (glyphRun l.glyphs before after lead
      (min (h.stopOn length) row.stop - max (h.firstOn length) row.start))
    (if after then none else h.comment)

instance : Decidable (PointShows length row h) := inferInstanceAs (Decidable (_ ∧ _ ∨ _ ∧ _))

instance : Decidable (RunShows length row h) := inferInstanceAs (Decidable (_ ∧ _))

variable {length row lead h}

theorem mark?_of_point (heq : h.firstOn length = h.stopOn length) :
    l.mark? length row lead h =
      if PointShows length row h then some (l.pointMark length row lead h) else none :=
  if_pos heq

theorem mark?_of_run (hne : h.firstOn length ≠ h.stopOn length) :
    l.mark? length row lead h =
      if RunShows length row h then some (l.runMark length row lead h) else none := by
  have hu : l.mark? length row lead h =
      if (row.stop : Int) ≤ h.firstOn length ∨ h.stopOn length ≤ row.start then none
      else some (l.runMark length row lead h) := if_neg hne
  have hr : ((row.stop : Int) ≤ h.firstOn length ∨ h.stopOn length ≤ row.start) ↔
      ¬RunShows length row h := by
    unfold RunShows
    omega
  rw [hu]
  by_cases hn : RunShows length row h <;> simp [hr, hn]

theorem mark?_eq_some_iff {m : Mark} :
    l.mark? length row lead h = some m ↔
      h.firstOn length = h.stopOn length ∧ PointShows length row h ∧
        l.pointMark length row lead h = m ∨
      h.firstOn length ≠ h.stopOn length ∧ RunShows length row h ∧
        l.runMark length row lead h = m := by
  by_cases heq : h.firstOn length = h.stopOn length
  · rw [l.mark?_of_point heq]
    by_cases hp : PointShows length row h <;> simp [heq, hp]
  · rw [l.mark?_of_run heq]
    by_cases hn : RunShows length row h <;> simp [heq, hn]

/-- The glyphs of a run stand under exactly the highlighted characters of the row, and under the
ellipsis before them if the run comes from an earlier row. -/
theorem occupies_runMark (column : Nat) (hr : RunShows length row h)
    (hlt : h.firstOn length < h.stopOn length) (hrow : row.start < row.stop) :
    (l.runMark length row lead h).Occupies column ↔
      h.firstOn length < row.start ∧ column < lead ∨
      ∃ i, row.start ≤ i ∧ i < row.stop ∧ h.Covers length i ∧
        column = lead + (i - row.start) := by
  obtain ⟨hfirst, hstop⟩ := hr
  have hsize : 1 ≤ min (h.stopOn length) row.stop - max (h.firstOn length) row.start := by omega
  unfold Mark.Occupies runMark
  rw [withComment_column, withComment_glyph, length_glyphRun _ _ _ _ hsize]
  simp only [decide_eq_true_eq]
  constructor
  · rintro ⟨hge, hless⟩
    by_cases hb : h.firstOn length < row.start
    · rw [if_pos hb, if_pos hb] at hless
      by_cases hc : column < lead
      · exact .inl ⟨hb, hc⟩
      · refine .inr ⟨row.start + (column - lead), ?_, ?_, ⟨?_, ?_⟩, ?_⟩ <;> omega
    · rw [if_neg hb] at hge
      rw [if_neg hb, if_neg hb] at hless
      refine .inr ⟨row.start + (column - lead), ?_, ?_, ⟨?_, ?_⟩, ?_⟩ <;> omega
  · rintro (⟨hb, hc⟩ | ⟨i, hi, hlast, ⟨hf, hs⟩, rfl⟩)
    · rw [if_pos hb, if_pos hb]
      omega
    · by_cases hb : h.firstOn length < row.start
      · rw [if_pos hb, if_pos hb]
        omega
      · rw [if_neg hb, if_neg hb]
        omega

theorem glyph_stop_le {m : Mark} (hm : l.mark? length row lead h = some m)
    (hrow : row.start ≤ row.stop) :
    m.column + m.glyph.length ≤ lead + (row.stop - row.start) + 1 := by
  rcases mark?_eq_some_iff l |>.mp hm with ⟨-, hp, rfl⟩ | ⟨-, ⟨hfirst, hstop⟩, rfl⟩
  · have hle : h.firstOn length ≤ row.stop := by
      unfold PointShows at hp
      omega
    simp only [pointMark, withComment_column, withComment_glyph, List.length_singleton]
    omega
  · have hlen := length_glyphRun_le l.glyphs (decide (h.firstOn length < row.start))
      (decide ((row.stop : Int) < h.stopOn length)) lead
      (min (h.stopOn length) row.stop - max (h.firstOn length) row.start)
    simp only [runMark, withComment_column, withComment_glyph]
    by_cases hb : h.firstOn length < row.start
    · simp only [hb, decide_true, Bool.true_or, if_true] at hlen ⊢
      omega
    · by_cases ha : (row.stop : Int) < h.stopOn length
      · simp only [hb, ha, decide_true, decide_false, Bool.false_or, if_true, if_false,
          Bool.false_eq_true] at hlen ⊢
        omega
      · simp only [hb, ha, decide_false, Bool.false_or, if_false, Bool.false_eq_true]
          at hlen ⊢
        omega

theorem cells_mark?_le {m : Mark} (hm : l.mark? length row lead h = some m)
    (hrow : row.start ≤ row.stop) :
    ∀ c ∈ m.cells, (c.stop : Int) ≤
      max ((lead + (row.stop - row.start) + 1 : Nat) : Int) l.width := by
  have hglyph := glyph_stop_le l hm hrow
  have hcells : ∀ c ∈ m.cells,
      (c.stop : Int) ≤ max ((m.column + m.glyph.length : Nat) : Int) (max 1 l.width) := by
    rcases mark?_eq_some_iff l |>.mp hm with ⟨-, -, rfl⟩ | ⟨-, -, rfl⟩
    · simpa only [pointMark, withComment_column, withComment_glyph] using
        l.stop_le_of_mem_cells_withComment _ _ _
    · simpa only [runMark, withComment_column, withComment_glyph] using
        l.stop_le_of_mem_cells_withComment _ _ _
  intro c hc
  have := hcells c hc
  omega

end Layout

end Frame

end SourceReport

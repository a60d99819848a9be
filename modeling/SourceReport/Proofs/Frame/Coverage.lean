import SourceReport.Proofs.Frame.Body
import SourceReport.Proofs.Frame.Marks

namespace SourceReport.Frame
open Text

theorem left_mem_glyphRun (before after : Bool) (lead : Nat) (size : Int) :
    Glyphs.unicode.left ∈ glyphRun .unicode before after lead size ↔
      before = false ∧ ¬(after = false ∧ size = 1) := by
  have hfill : Glyphs.unicode.left ≠ Glyphs.unicode.fill := by decide
  have hright : Glyphs.unicode.left ≠ Glyphs.unicode.right := by decide
  have hsingle : Glyphs.unicode.left ≠ Glyphs.unicode.single := by decide
  cases before <;> cases after <;> simp only [glyphRun, Bool.false_eq_true, if_false, if_true]
  · split
    · rename_i h
      simp [h, hsingle]
    · rename_i h
      simp [h]
  all_goals simp [mem_times, hfill, hright]

theorem right_mem_glyphRun (before after : Bool) (lead : Nat) (size : Int) :
    Glyphs.unicode.right ∈ glyphRun .unicode before after lead size ↔
      after = false ∧ ¬(before = false ∧ size = 1) := by
  have hfill : Glyphs.unicode.right ≠ Glyphs.unicode.fill := by decide
  have hleft : Glyphs.unicode.right ≠ Glyphs.unicode.left := by decide
  have hsingle : Glyphs.unicode.right ≠ Glyphs.unicode.single := by decide
  cases before <;> cases after <;> simp only [glyphRun, Bool.false_eq_true, if_false, if_true]
  · split
    · rename_i h
      simp [h, hsingle]
    · rename_i h
      simp [h]
  all_goals simp [mem_times, hfill, hleft]

theorem comment_withComment_ne_nil (o : Options) (margin : Int) (column : Nat)
    (glyph : List Char) {comment : List Char} (h : isBlankText comment = false) :
    ((Layout.ofOptions margin o).withComment column glyph (some comment)).comment ≠ [] := by
  have hdisplay := o.isBlankText_display h
  simp only [Layout.withComment, h, Bool.false_eq_true, if_false]
  split <;> exact Fill.wrap_ne_nil _ hdisplay

/-- What is drawn of a highlight over all rows of its line. -/
structure DrawnOnce (l : Layout) (cutStart : Bool) (highlights : List Highlight) (length : Nat)
    (h : Highlight) : Prop where
  rows_nodup : (l.rows highlights length).Nodup
  /-- A highlight with characters has a mark on exactly the rows that show some of them. -/
  run_iff : h.firstOn length < h.stopOn length → ∀ r ∈ l.rows highlights length,
    ((l.markOn cutStart length r h).isSome ↔
      ∃ i, r.start ≤ i ∧ i < r.stop ∧ h.Covers length i)
  /-- Each of its characters has glyphs under it on exactly one row. -/
  run_once : h.firstOn length < h.stopOn length → ∀ i, h.Covers length i →
    ∃! r, r ∈ l.rows highlights length ∧ r.start ≤ i ∧ i < r.stop ∧
      ∃ m, l.markOn cutStart length r h = some m ∧
        m.Occupies (l.lead cutStart r + (i - r.start))
  /-- The left end stands on the first of its rows only, the right end on the last only, and neither
  under a single character. -/
  run_ends : l.glyphs = .unicode → h.firstOn length < h.stopOn length →
    ∀ r ∈ l.rows highlights length, ∀ m, l.markOn cutStart length r h = some m →
      (l.glyphs.left ∈ m.glyph ↔ h.stopOn length ≠ h.firstOn length + 1 ∧
        ∀ s ∈ l.rows highlights length,
          (l.markOn cutStart length s h).isSome → r.start ≤ s.start) ∧
      (l.glyphs.right ∈ m.glyph ↔ h.stopOn length ≠ h.firstOn length + 1 ∧
        ∀ s ∈ l.rows highlights length,
          (l.markOn cutStart length s h).isSome → s.stop ≤ r.stop)
  point_once : h.firstOn length = h.stopOn length →
    (∃! r, r ∈ l.rows highlights length ∧ (l.markOn cutStart length r h).isSome) ∧
    ∀ r ∈ l.rows highlights length, ∀ m, l.markOn cutStart length r h = some m →
      m.glyph = [l.glyphs.point]
  /-- A comment is attached to the mark on the last of these rows, and to no other. -/
  comment_once : ∀ comment, h.comment = some comment → isBlankText comment = false →
    ∃ r ∈ l.rows highlights length, ∃ m, l.markOn cutStart length r h = some m ∧
      h.stopOn length ≤ r.stop ∧
      (∀ s ∈ l.rows highlights length,
        (l.markOn cutStart length s h).isSome → s.stop ≤ r.stop) ∧
      m.comment ≠ [] ∧ m = l.withComment m.column m.glyph (some comment) ∧
      ∀ s ∈ l.rows highlights length, ∀ n, l.markOn cutStart length s h = some n →
        n.comment ≠ [] → s = r

section
variable {l : Layout} {cutStart : Bool} {highlights : List Highlight} {length : Nat}
  {h : Highlight}

theorem stopOn_le_length (h : Highlight) (length : Nat) : h.stopOn length ≤ length :=
  Int.min_le_right _ _

theorem firstStart_le_firstOn (l : Layout) (length : Nat) (hh : h ∈ highlights) (h0 : 0 ≤ h.offset) :
    (l.firstStart highlights length : Int) ≤ h.firstOn length := by
  have hfirst : (l.firstStart highlights length : Int) ≤ max 0 (h.firstOn length) :=
    lineStart_le_first hh _ _
  have hplace : 0 ≤ h.firstOn length := Int.le_min.mpr ⟨h0, Int.natCast_nonneg length⟩
  rwa [Int.max_eq_right hplace] at hfirst

theorem start_lt_stop_of_run (hh : h ∈ highlights) (h0 : 0 ≤ h.offset)
    (hlt : h.firstOn length < h.stopOn length) :
    l.firstStart highlights length < length ∧
    ∀ r ∈ l.rows highlights length, r.start < r.stop := by
  have hstart := firstStart_le_firstOn l length hh h0
  have hstop := stopOn_le_length h length
  have hs : l.firstStart highlights length < length := by omega
  exact ⟨hs, (l.tiles_rows highlights length).start_lt_stop l.budget_pos hs⟩

theorem markOn_of_run (hlt : h.firstOn length < h.stopOn length) {r : Row} :
    l.markOn cutStart length r h =
      if Layout.RunShows length r h then some (l.runMark length r (l.lead cutStart r) h)
      else none :=
  l.mark?_of_run (Int.ne_of_lt hlt)

theorem isSome_markOn_of_run (hlt : h.firstOn length < h.stopOn length) {r : Row} :
    (l.markOn cutStart length r h).isSome ↔ Layout.RunShows length r h := by
  rw [markOn_of_run hlt]
  by_cases hr : Layout.RunShows length r h <;> simp [hr]

theorem runShows_iff (hh : h ∈ highlights) (h0 : 0 ≤ h.offset)
    (hlt : h.firstOn length < h.stopOn length) :
    ∀ r ∈ l.rows highlights length, (Layout.RunShows length r h ↔
      ∃ i, r.start ≤ i ∧ i < r.stop ∧ h.Covers length i) := by
  intro r hr
  have hne := (start_lt_stop_of_run hh h0 hlt).2 r hr
  have hstart := firstStart_le_firstOn l length hh h0
  unfold Layout.RunShows Highlight.Covers
  constructor
  · rintro ⟨hfirst, hstop⟩
    refine ⟨(max (h.firstOn length) r.start).toNat, ?_, ?_, ?_, ?_⟩ <;> omega
  · rintro ⟨i, hi, hlast, hf, hs⟩
    omega

theorem run_once (hh : h ∈ highlights) (h0 : 0 ≤ h.offset)
    (hlt : h.firstOn length < h.stopOn length) {i : Nat} (hi : h.Covers length i) :
    ∃! r, r ∈ l.rows highlights length ∧ r.start ≤ i ∧ i < r.stop ∧
      ∃ m, l.markOn cutStart length r h = some m ∧
        m.Occupies (l.lead cutStart r + (i - r.start)) := by
  have hstart := firstStart_le_firstOn l length hh h0
  have hstop := stopOn_le_length h length
  have htiles := l.tiles_rows highlights length
  obtain ⟨hf, hs⟩ := hi
  obtain ⟨r, ⟨hr, hle, hlast⟩, huniq⟩ := htiles.existsUnique_shows (i := i) (by omega) (by omega)
  refine ⟨r, ⟨hr, hle, hlast, ?_⟩, ?_⟩
  · have hshows := (runShows_iff hh h0 hlt r hr).mpr ⟨i, hle, hlast, hf, hs⟩
    refine ⟨_, by rw [markOn_of_run hlt, if_pos hshows], ?_⟩
    have hne := (start_lt_stop_of_run hh h0 hlt).2 r hr
    exact (l.occupies_runMark _ hshows hlt hne).mpr (.inr ⟨i, hle, hlast, ⟨hf, hs⟩, rfl⟩)
  · rintro s ⟨hs, hsle, hslast, -⟩
    exact huniq s ⟨hs, hsle, hslast⟩

theorem start_le_firstOn_iff (hh : h ∈ highlights) (h0 : 0 ≤ h.offset)
    (hlt : h.firstOn length < h.stopOn length) {r : Row} (hr : r ∈ l.rows highlights length) :
    (r.start : Int) ≤ h.firstOn length ↔ ∀ s ∈ l.rows highlights length,
      (l.markOn cutStart length s h).isSome → r.start ≤ s.start := by
  have hstart := firstStart_le_firstOn l length hh h0
  have hstop := stopOn_le_length h length
  have hlen := (start_lt_stop_of_run (l := l) hh h0 hlt).1
  have htiles := l.tiles_rows highlights length
  constructor
  · intro hle s hs hmark
    obtain ⟨hfirst, -⟩ := (isSome_markOn_of_run hlt).mp hmark
    by_contra hover
    have hne : r ≠ s := by
      rintro rfl
      omega
    have hrlt := htiles.start_lt_stop l.budget_pos hlen r hr
    rcases htiles.apart l.budget_pos hlen hr hs hne with h1 | h1 <;> omega
  · intro hall
    obtain ⟨s, ⟨hs, hsle, hslast⟩, -⟩ :=
      htiles.existsUnique_shows (i := (h.firstOn length).toNat) (by omega) (by omega)
    have hshows : Layout.RunShows length s h := ⟨by omega, by omega⟩
    have := hall s hs ((isSome_markOn_of_run hlt).mpr hshows)
    omega

theorem stopOn_le_stop_iff (hh : h ∈ highlights) (h0 : 0 ≤ h.offset)
    (hlt : h.firstOn length < h.stopOn length) {r : Row} (hr : r ∈ l.rows highlights length) :
    h.stopOn length ≤ r.stop ↔ ∀ s ∈ l.rows highlights length,
      (l.markOn cutStart length s h).isSome → s.stop ≤ r.stop := by
  have hstart := firstStart_le_firstOn l length hh h0
  have hstop := stopOn_le_length h length
  have hlen := (start_lt_stop_of_run (l := l) hh h0 hlt).1
  have htiles := l.tiles_rows highlights length
  constructor
  · intro hle s hs hmark
    obtain ⟨-, hlast⟩ := (isSome_markOn_of_run hlt).mp hmark
    by_contra hover
    have hne : r ≠ s := by
      rintro rfl
      omega
    have hrlt := htiles.start_lt_stop l.budget_pos hlen r hr
    rcases htiles.apart l.budget_pos hlen hr hs hne with h1 | h1 <;> omega
  · intro hall
    obtain ⟨s, ⟨hs, hslt, hsle⟩, -⟩ :=
      htiles.existsUnique (h.stopOn length).toNat (by omega) (by omega)
    have hshows : Layout.RunShows length s h := ⟨by omega, by omega⟩
    have := hall s hs ((isSome_markOn_of_run hlt).mpr hshows)
    omega

theorem lastRow_once (hh : h ∈ highlights) (h0 : 0 ≤ h.offset)
    (hlt : h.firstOn length < h.stopOn length) :
    ∃! r, r ∈ l.rows highlights length ∧ Layout.RunShows length r h ∧
      h.stopOn length ≤ r.stop := by
  have hstart := firstStart_le_firstOn l length hh h0
  have hstop := stopOn_le_length h length
  obtain ⟨r, ⟨hr, hrlt, hrle⟩, huniq⟩ := (l.tiles_rows highlights length).existsUnique
    (h.stopOn length).toNat (by omega) (by omega)
  refine ⟨r, ⟨hr, ⟨by omega, by omega⟩, by omega⟩, ?_⟩
  rintro s ⟨hs, ⟨-, hslt⟩, hsle⟩
  exact huniq s ⟨hs, by omega, by omega⟩

theorem run_ends (hg : l.glyphs = .unicode) (hh : h ∈ highlights) (h0 : 0 ≤ h.offset)
    (hlt : h.firstOn length < h.stopOn length) {r : Row} (hr : r ∈ l.rows highlights length)
    {m : Mark} (hm : l.markOn cutStart length r h = some m) :
    (l.glyphs.left ∈ m.glyph ↔ h.stopOn length ≠ h.firstOn length + 1 ∧
      ∀ s ∈ l.rows highlights length,
        (l.markOn cutStart length s h).isSome → r.start ≤ s.start) ∧
    (l.glyphs.right ∈ m.glyph ↔ h.stopOn length ≠ h.firstOn length + 1 ∧
      ∀ s ∈ l.rows highlights length,
        (l.markOn cutStart length s h).isSome → s.stop ≤ r.stop) := by
  have hshows := (isSome_markOn_of_run hlt).mp (Option.isSome_of_mem hm)
  rw [markOn_of_run hlt, if_pos hshows] at hm
  obtain rfl := Option.some.inj hm
  obtain ⟨hfirst, hstop⟩ := hshows
  rw [← start_le_firstOn_iff hh h0 hlt hr, ← stopOn_le_stop_iff hh h0 hlt hr]
  simp only [Layout.runMark, Layout.withComment_glyph, hg, left_mem_glyphRun,
    right_mem_glyphRun, decide_eq_false_iff_not]
  omega

theorem markOn_of_point (heq : h.firstOn length = h.stopOn length) {r : Row} :
    l.markOn cutStart length r h =
      if Layout.PointShows length r h then some (l.pointMark length r (l.lead cutStart r) h)
      else none :=
  l.mark?_of_point heq

/-- A place of a line is shown by one of the rows that tile it, the line's end by the last one. -/
theorem Tiles.pointShows_once {budget start : Nat} {rows : List Row}
    (htiles : Tiles length budget start rows) (hb : 0 < budget)
    (hlen : start < length ∨ length = 0) (hstart : (start : Int) ≤ h.firstOn length) :
    ∃! r, r ∈ rows ∧ Layout.PointShows length r h := by
  have hle : h.firstOn length ≤ length := Int.min_le_right _ _
  have hbounds := htiles.bounds (by omega)
  by_cases hend : h.firstOn length = length
  · obtain ⟨r, ⟨hr, hstop⟩, huniq⟩ := htiles.existsUnique_end hb hlen
    refine ⟨r, ⟨hr, .inr ⟨by omega, hstop⟩⟩, ?_⟩
    rintro s ⟨hs, hp⟩
    have := hbounds s hs
    apply huniq s
    refine ⟨hs, ?_⟩
    rcases hp with hp | hp <;> omega
  · obtain ⟨r, ⟨hr, hrle, hrlast⟩, huniq⟩ :=
      htiles.existsUnique_shows (i := (h.firstOn length).toNat) (by omega) (by omega)
    refine ⟨r, ⟨hr, .inl ⟨by omega, by omega⟩⟩, ?_⟩
    rintro s ⟨hs, hp⟩
    apply huniq s
    refine ⟨hs, ?_⟩
    rcases hp with hp | hp <;> omega

theorem pointShows_once (l : Layout) (length : Nat) (hh : h ∈ highlights) (h0 : 0 ≤ h.offset) :
    ∃! r, r ∈ l.rows highlights length ∧ Layout.PointShows length r h :=
  (l.tiles_rows highlights length).pointShows_once l.budget_pos (lineStart_lt_or_zero ..)
    (firstStart_le_firstOn l length hh h0)

theorem isSome_markOn_of_point (heq : h.firstOn length = h.stopOn length) {r : Row} :
    (l.markOn cutStart length r h).isSome ↔ Layout.PointShows length r h := by
  rw [markOn_of_point heq]
  by_cases hr : Layout.PointShows length r h <;> simp [hr]

theorem point_once (hh : h ∈ highlights) (h0 : 0 ≤ h.offset)
    (heq : h.firstOn length = h.stopOn length) :
    (∃! r, r ∈ l.rows highlights length ∧ (l.markOn cutStart length r h).isSome) ∧
    ∀ r ∈ l.rows highlights length, ∀ m, l.markOn cutStart length r h = some m →
      m.glyph = [l.glyphs.point] := by
  refine ⟨by simpa only [isSome_markOn_of_point heq] using pointShows_once l length hh h0, ?_⟩
  intro r _ m hm
  have hp := (isSome_markOn_of_point heq).mp (Option.isSome_of_mem hm)
  rw [markOn_of_point heq, if_pos hp] at hm
  rw [← Option.some.inj hm, Layout.pointMark, Layout.withComment_glyph]

theorem stopOn_le_stop_of_comment (hlt : h.firstOn length < h.stopOn length) {r : Row} {m : Mark}
    (hm : l.markOn cutStart length r h = some m) (hc : m.comment ≠ []) :
    h.stopOn length ≤ r.stop := by
  have hshows := (isSome_markOn_of_run hlt).mp (Option.isSome_of_mem hm)
  rw [markOn_of_run hlt, if_pos hshows] at hm
  obtain rfl := Option.some.inj hm
  by_contra hover
  have hafter : decide ((r.stop : Int) < h.stopOn length) = true := by simpa using hover
  simp only [Layout.runMark, hafter, if_true, Layout.withComment_none] at hc
  exact hc rfl

theorem comment_once {o : Options} {margin : Int} (hl : l = .ofOptions margin o)
    (hh : h ∈ highlights) (h0 : 0 ≤ h.offset) (h1 : 0 ≤ h.length) {comment : List Char}
    (hcomment : h.comment = some comment) (hblank : isBlankText comment = false) :
    ∃ r ∈ l.rows highlights length, ∃ m, l.markOn cutStart length r h = some m ∧
      h.stopOn length ≤ r.stop ∧
      (∀ s ∈ l.rows highlights length,
        (l.markOn cutStart length s h).isSome → s.stop ≤ r.stop) ∧
      m.comment ≠ [] ∧ m = l.withComment m.column m.glyph (some comment) ∧
      ∀ s ∈ l.rows highlights length, ∀ n, l.markOn cutStart length s h = some n →
        n.comment ≠ [] → s = r := by
  have hattached (column : Nat) (glyph : List Char) :
      (l.withComment column glyph (some comment)).comment ≠ [] := by
    rw [hl]
    exact comment_withComment_ne_nil o margin column glyph hblank
  by_cases heq : h.firstOn length = h.stopOn length
  · obtain ⟨r, ⟨hr, hp⟩, huniq⟩ := pointShows_once l length hh h0
    have hpoint {s : Row} (hs : s ∈ l.rows highlights length)
        (hmark : (l.markOn cutStart length s h).isSome) : s = r :=
      huniq s ⟨hs, (isSome_markOn_of_point heq).mp hmark⟩
    refine ⟨r, hr, _, by rw [markOn_of_point heq, if_pos hp], ?_, ?_, ?_, ?_, ?_⟩
    · rcases hp with hp | hp <;> omega
    · intro s hs hmark
      exact Nat.le_of_eq (congrArg Row.stop (hpoint hs hmark))
    · rw [Layout.pointMark, hcomment]
      exact hattached _ _
    · simp only [Layout.pointMark, Layout.withComment_column, Layout.withComment_glyph, hcomment]
    · intro s hs n hn _
      exact hpoint hs (Option.isSome_of_mem hn)
  · have hlt : h.firstOn length < h.stopOn length := by
      have : h.offset ≤ h.stop := by
        unfold Highlight.stop
        omega
      unfold Highlight.firstOn Highlight.stopOn at heq ⊢
      omega
    obtain ⟨r, ⟨hr, hshows, hend⟩, huniq⟩ := lastRow_once (l := l) hh h0 hlt
    have hafter : decide ((r.stop : Int) < h.stopOn length) = false := by simpa using hend
    refine ⟨r, hr, _, by rw [markOn_of_run hlt, if_pos hshows], hend,
      (stopOn_le_stop_iff hh h0 hlt hr).mp hend, ?_, ?_, ?_⟩
    · simp only [Layout.runMark, hafter, hcomment]
      exact hattached _ _
    · simp only [Layout.runMark, Layout.withComment_column, Layout.withComment_glyph, hafter,
        hcomment]
      rfl
    · intro s hs n hn hc
      have hsshows := (isSome_markOn_of_run hlt).mp (Option.isSome_of_mem hn)
      exact huniq s ⟨hs, hsshows, stopOn_le_stop_of_comment hlt hn hc⟩

end

/-- Every highlight of a line is drawn completely, and its comment once. The strips under a row are
made of the marks that its highlights have there, each set on one strip. -/
theorem drawnOnce (o : Options) (margin : Int) (cutStart : Bool) (length : Nat)
    (highlights : List Highlight) (hnn : ∀ h ∈ highlights, 0 ≤ h.offset ∧ 0 ≤ h.length) :
    (∀ h ∈ highlights, DrawnOnce (.ofOptions margin o) cutStart highlights length h) ∧
    ∀ row, ((rowStrips (.ofOptions margin o) highlights length row
        ((Layout.ofOptions margin o).lead cutStart row)).flatMap Strip.marks).Perm
      (highlights.filterMap ((Layout.ofOptions margin o).markOn cutStart length row)) := by
  refine ⟨?_, fun row => Strip.marks_pack_perm _⟩
  intro h hh
  obtain ⟨h0, h1⟩ := hnn h hh
  exact {
    rows_nodup := (Layout.tiles_rows _ _ _).nodup (Layout.budget_pos _) (lineStart_le ..)
    run_iff := fun hlt r hr => by
      rw [isSome_markOn_of_run hlt]
      exact runShows_iff hh h0 hlt r hr
    run_once := fun hlt i hi => run_once hh h0 hlt hi
    run_ends := fun hg hlt r hr m hm => run_ends hg hh h0 hlt hr hm
    point_once := point_once hh h0
    comment_once := fun comment hc hb => comment_once rfl hh h0 h1 hc hb }

/-- A run over three rows with a comment, and a point at the line's end. The run's comment stands on
the last row alone, and so does the point. -/
theorem drawnOnce_wide :
    let run : Highlight := ⟨0, 8, 30, some "seen twice".toList⟩
    let point : Highlight := ⟨0, 45, 0, none⟩
    let l := Layout.ofOptions 1 { maxColumns := 20 }
    (∀ h ∈ [run, point], 0 ≤ h.offset ∧ 0 ≤ h.length) ∧
      DrawnOnce l false [run, point] 45 run ∧ DrawnOnce l false [run, point] 45 point ∧
      l.rows [run, point] 45 = [⟨3, 17⟩, ⟨17, 31⟩, ⟨31, 45⟩] ∧
      l.markOn false 45 ⟨3, 17⟩ run = some ⟨6, "╶────────".toList, [], none⟩ ∧
      l.markOn false 45 ⟨17, 31⟩ run = some ⟨0, "───────────────".toList, [], none⟩ ∧
      l.markOn false 45 ⟨31, 45⟩ run =
        some ⟨0, "───────╴".toList, ["seen twice".toList], some 0⟩ ∧
      (∀ r ∈ l.rows [run, point] 45, ∀ m, l.markOn false 45 r run = some m → m.comment ≠ [] →
        r = ⟨31, 45⟩) ∧
      ∀ r ∈ l.rows [run, point] 45, (l.markOn false 45 r point).isSome → r = ⟨31, 45⟩ := by
  intro run point l
  have hnn : ∀ h ∈ [run, point], 0 ≤ h.offset ∧ 0 ≤ h.length := by
    intro h hh
    simp only [List.mem_cons, List.not_mem_nil, or_false] at hh
    rcases hh with rfl | rfl <;> decide
  have hrows : l.rows [run, point] 45 = [⟨3, 17⟩, ⟨17, 31⟩, ⟨31, 45⟩] := by
    have hfirst : Frame.firstStart 45 (highlightSpan [run, point] (45 : Nat)) = 3 := by decide
    have hfrom : rowsFrom 45 14 3 = [⟨3, 17⟩, ⟨17, 31⟩, ⟨31, 45⟩] := by
      rw [rowsFrom, if_pos (by decide), rowsFrom, if_pos (by decide), rowsFrom, if_neg (by decide)]
    have hbudget : l.budget = 14 := by decide
    rw [Layout.rows, lineRows, hbudget, if_neg (by decide), hfirst, hfrom]
  have hlast : l.markOn false 45 ⟨31, 45⟩ run =
      some ⟨0, "───────╴".toList, ["seen twice".toList], some 0⟩ := by decide +kernel
  have hend : (l.markOn false 45 ⟨31, 45⟩ point).isSome := by decide
  have hmem : (⟨31, 45⟩ : Row) ∈ l.rows [run, point] 45 := by
    rw [hrows]
    decide
  have hall := (drawnOnce { maxColumns := 20 } 1 false 45 [run, point] hnn).1
  have hrun : DrawnOnce l false [run, point] 45 run := hall run (by simp)
  have hpoint : DrawnOnce l false [run, point] 45 point := hall point (by simp)
  refine ⟨hnn, hrun, hpoint, hrows, rfl, rfl, hlast, ?_, ?_⟩
  · obtain ⟨row, -, -, -, -, -, -, -, honly⟩ := hrun.comment_once _ rfl (by decide)
    intro r hr m hm hcomment
    have hrow := honly ⟨31, 45⟩ hmem _ hlast (List.cons_ne_nil _ _)
    rw [hrow]
    exact honly r hr m hm hcomment
  · obtain ⟨⟨row, -, honly⟩, -⟩ := hpoint.point_once (by decide)
    intro r hr hdrawn
    rw [honly ⟨31, 45⟩ ⟨hmem, hend⟩]
    exact honly r ⟨hr, hdrawn⟩

end SourceReport.Frame

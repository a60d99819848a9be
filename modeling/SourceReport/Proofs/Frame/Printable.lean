import SourceReport.Proofs.Frame.Sharing

namespace SourceReport
open Text

namespace Glyphs

/-- Whether a character is fit for what is drawn with a glyph set: it is no control character, and
in ASCII where the set has a placeholder for all others. -/
def Shows (g : Glyphs) (c : Char) : Prop :=
  0x20 ≤ c.toNat ∧ c.toNat ≠ 0x7F ∧ (g.placeholder.isSome → c.toNat < 0x7F)

instance (g : Glyphs) (c : Char) : Decidable (g.Shows c) := inferInstanceAs (Decidable (_ ∧ _))

theorem shows_of_ascii (g : Glyphs) {c : Char} (hl : 0x20 ≤ c.toNat) (hu : c.toNat < 0x7F) :
    g.Shows c :=
  ⟨hl, Nat.ne_of_lt hu, fun _ => hu⟩

theorem shows_space (g : Glyphs) : g.Shows ' ' := g.shows_of_ascii (by decide) (by decide)

theorem displayChar_of_shows {g : Glyphs} {c : Char} (h : g.Shows c) : g.displayChar c = c := by
  obtain ⟨hl, hdelete, hu⟩ := h
  have htab : c ≠ '\t' := by
    rintro rfl
    exact absurd hl (by decide)
  unfold displayChar
  split
  · rename_i stand hstand
    have hlt := hu (by rw [hstand]; rfl)
    rw [if_neg htab, if_neg (by omega)]
  · rw [if_neg (by omega), if_neg hdelete]

/-- How a glyph set shows a text: character by character, so that every piece of it is shown where
it stands, and what is shown is not changed by showing it again. -/
structure ShowsInPlace (g : Glyphs) (s : List Char) : Prop where
  length_eq : (g.display s).length = s.length
  getElem?_eq : ∀ i : Nat, (g.display s)[i]? = s[i]?.map g.displayChar
  piece_eq : ∀ first stop,
    g.display ((s.take stop).drop first) = ((g.display s).take stop).drop first
  display_eq : g.display (g.display s) = g.display s

structure Printable (g : Glyphs) : Prop where
  row : g.Shows g.row
  strip : g.Shows g.strip
  ellipsis : ∀ c ∈ g.ellipsis, g.Shows c
  point : g.Shows g.point
  single : g.Shows g.single
  left : g.Shows g.left
  fill : g.Shows g.fill
  right : g.Shows g.right
  picture : ∀ c, g.Shows (g.displayChar c)

theorem shows_controlPicture : ∀ n < 0x20, unicode.Shows (Char.ofNat (n + 0x2400)) := by decide

theorem printable_unicode : unicode.Printable where
  row := by decide
  strip := by decide
  ellipsis := List.forall_mem_singleton.mpr (by decide)
  point := by decide
  single := by decide
  left := by decide
  fill := by decide
  right := by decide
  picture c := by
    simp only [displayChar, unicode]
    split
    · rename_i hc
      exact shows_controlPicture c.toNat hc
    · rename_i hc
      split
      · decide
      · rename_i hne
        exact ⟨Nat.le_of_not_lt hc, hne, fun h => by cases h⟩

theorem printable_ascii : ascii.Printable where
  row := by decide
  strip := by decide
  ellipsis c hc := by
    rw [List.eq_of_mem_replicate (n := 3) hc]
    decide
  point := by decide
  single := by decide
  left := by decide
  fill := by decide
  right := by decide
  picture c := by
    simp only [displayChar, ascii]
    split
    · exact shows_space _
    · split
      · decide
      · exact shows_of_ascii _ (by omega) (by omega)

namespace Printable
variable {g : Glyphs}

theorem display (h : g.Printable) (s : List Char) : ∀ c ∈ g.display s, g.Shows c := by
  intro c hc
  obtain ⟨d, -, rfl⟩ := List.mem_map.mp hc
  exact h.picture d

theorem showsInPlace (h : g.Printable) (s : List Char) : g.ShowsInPlace s where
  length_eq := g.length_display s
  getElem?_eq i := by rw [Glyphs.display, List.getElem?_map]
  piece_eq first stop := by simp only [Glyphs.display, List.map_take, List.map_drop]
  display_eq := by
    refine (List.map_congr_left fun c hc => ?_).trans (List.map_id _)
    exact displayChar_of_shows (h.display s c hc)

theorem times_fill (h : g.Printable) (n : Int) : ∀ c ∈ Frame.times n g.fill, g.Shows c := by
  intro c hc
  rw [(Frame.mem_times.mp hc).2]
  exact h.fill

theorem glyphRun (h : g.Printable) (before after : Bool) (lead : Nat) (size : Int) :
    ∀ c ∈ Frame.glyphRun g before after lead size, g.Shows c := by
  have hleft (n : Int) : ∀ c ∈ g.left :: Frame.times n g.fill, g.Shows c :=
    List.forall_mem_cons.mpr ⟨h.left, h.times_fill n⟩
  have hright : ∀ c ∈ [g.right], g.Shows c := List.forall_mem_singleton.mpr h.right
  unfold Frame.glyphRun
  split
  · split
    · exact List.forall_mem_append.mpr ⟨h.times_fill _, h.times_fill _⟩
    · exact List.forall_mem_append.mpr
        ⟨List.forall_mem_append.mpr ⟨h.times_fill _, h.times_fill _⟩, hright⟩
  · split
    · exact hleft _
    · split
      · exact List.forall_mem_singleton.mpr h.single
      · exact List.forall_mem_append.mpr ⟨hleft _, hright⟩

end Printable

end Glyphs

theorem Options.printable_glyphs (o : Options) : o.glyphs.Printable := by
  rcases o.glyphs_cases with h | h <;> rw [h]
  · exact Glyphs.printable_unicode
  · exact Glyphs.printable_ascii

theorem Glyphs.shows_of_mem_decimal (g : Glyphs) {n : Int} : ∀ c ∈ decimal n, g.Shows c := by
  have hdigit (m : Nat) : ∀ c ∈ Nat.toDigits 10 m, g.Shows c := by
    intro c hc
    have hd := Nat.isDigit_of_mem_toDigits (by decide) (by decide) hc
    simp only [Char.isDigit, Bool.and_eq_true, decide_eq_true_eq] at hd
    obtain ⟨hl, hu⟩ := hd
    have hlow : 48 ≤ c.toNat := hl
    have hhigh : c.toNat ≤ 57 := hu
    exact g.shows_of_ascii (by omega) (by omega)
  cases n with
  | ofNat m => exact hdigit m
  | negSucc m =>
    intro c hc
    rcases List.mem_cons.mp hc with rfl | hc
    · exact g.shows_of_ascii (by decide) (by decide)
    · exact hdigit _ c hc

namespace Frame

namespace Mark

structure Printable (g : Glyphs) (m : Mark) : Prop where
  glyph : ∀ c ∈ m.glyph, g.Shows c
  comment : ∀ line ∈ m.comment, ∀ c ∈ line, g.Shows c

theorem Printable.cells {g : Glyphs} {m : Mark} (h : m.Printable g) :
    ∀ cell ∈ m.cells, ∀ c ∈ cell.text, g.Shows c := by
  have hrest (column : Nat) (lines : List (List Char)) (hl : ∀ line ∈ lines, line ∈ m.comment) :
      ∀ cell ∈ lines.mapIdx fun i line => (⟨i + 1, column, line⟩ : Cell),
        ∀ c ∈ cell.text, g.Shows c := by
    intro cell hcell
    obtain ⟨i, hi, rfl⟩ := List.mem_mapIdx.mp hcell
    exact h.comment _ (hl _ (List.getElem_mem hi))
  intro cell hcell
  unfold Mark.cells at hcell
  split at hcell
  · rcases List.mem_cons.mp hcell with rfl | hcell
    · exact h.glyph
    · exact hrest _ _ (fun _ hl => hl) cell hcell
  · rw [List.mem_singleton.mp hcell]
    exact h.glyph
  · rename_i first rest hb hm
    rcases List.mem_cons.mp hcell with rfl | hcell
    · intro c hc
      rcases List.mem_append.mp hc with hc | hc
      · exact h.glyph c hc
      · rcases List.mem_cons.mp hc with rfl | hc
        · exact g.shows_space
        · exact h.comment first (by simp [hm]) c hc
    · exact hrest _ _ (fun line hl => by simp [hm, hl]) cell hcell

end Mark

namespace Strip

theorem shows_putAt {g : Glyphs} {line : List Char} {cell : Cell} (hl : ∀ c ∈ line, g.Shows c)
    (hc : ∀ c ∈ cell.text, g.Shows c) : ∀ c ∈ putAt line cell, g.Shows c := by
  intro c hmem
  rcases List.mem_append.mp hmem with hmem | hmem
  · rcases List.mem_append.mp hmem with hmem | hmem
    · exact hl c hmem
    · rw [(List.mem_replicate.mp hmem).2]
      exact g.shows_space
  · exact hc c hmem

theorem shows_foldl_putAt {g : Glyphs} {cells : List Cell} {line : List Char}
    (hl : ∀ c ∈ line, g.Shows c) (hc : ∀ cell ∈ cells, ∀ c ∈ cell.text, g.Shows c) :
    ∀ c ∈ cells.foldl putAt line, g.Shows c := by
  induction cells generalizing line with
  | nil => exact hl
  | cons cell cells ih =>
    exact ih (shows_putAt hl (hc cell (by simp))) (fun d hd => hc d (by simp [hd]))

theorem shows_of_mem_lines {g : Glyphs} {s : Strip} (h : ∀ m ∈ s.marks, m.Printable g) :
    ∀ line ∈ s.lines, ∀ c ∈ line, g.Shows c := by
  intro line hl
  obtain ⟨row, -, rfl⟩ := List.mem_map.mp hl
  refine shows_foldl_putAt (by simp) fun cell hcell => ?_
  obtain ⟨m, hm, hcell⟩ := List.mem_flatMap.mp (List.mem_filter.mp hcell).1
  exact (h m hm).cells cell hcell

end Strip

namespace Layout
variable {l : Layout}

theorem printable_withComment (hg : l.glyphs.Printable) (column : Nat) {glyph : List Char}
    (h : ∀ c ∈ glyph, l.glyphs.Shows c) (comment : Option (List Char)) :
    (l.withComment column glyph comment).Printable l.glyphs where
  glyph := by rwa [withComment_glyph]
  comment := by
    have hwrap {width : Nat} {comment : List Char} :
        ∀ line ∈ Fill.wrap width (l.glyphs.display comment), ∀ c ∈ line, l.glyphs.Shows c :=
      fun line hl c hc => hg.display comment c (Fill.mem_of_mem_wrap hl c hc)
    unfold withComment
    split
    · simp
    · split
      · simp
      · dsimp only
        split <;> exact hwrap

theorem printable_of_mark? (hg : l.glyphs.Printable) {length lead : Nat} {row : Row}
    {h : Highlight} {m : Mark} (hm : l.mark? length row lead h = some m) :
    m.Printable l.glyphs := by
  rcases l.mark?_eq_some_iff.mp hm with ⟨-, -, rfl⟩ | ⟨-, -, rfl⟩
  · exact printable_withComment hg _ (List.forall_mem_singleton.mpr hg.point) _
  · exact printable_withComment hg _ (hg.glyphRun _ _ _ _) _

theorem shows_of_mem_rowStrips (hg : l.glyphs.Printable) {highlights : List Highlight}
    {length lead : Nat} {row : Row} :
    ∀ s ∈ rowStrips l highlights length row lead, ∀ line ∈ s.lines,
      ∀ c ∈ line, l.glyphs.Shows c := by
  intro s hs
  refine Strip.shows_of_mem_lines fun m hm => ?_
  have hmem := (Strip.marks_pack_perm _).mem_iff.mp (List.mem_flatMap.mpr ⟨s, hs, hm⟩)
  obtain ⟨h, -, hmark⟩ := List.mem_filterMap.mp hmem
  exact printable_of_mark? hg hmark

end Layout

namespace BlockLine

theorem shows_numberColumns (g : Glyphs) {margin : Int} {number : List Char}
    (h : ∀ c ∈ number, g.Shows c) : ∀ c ∈ numberColumns margin number, g.Shows c := by
  intro c hc
  rcases List.mem_append.mp hc with hc | hc
  · exact h c hc
  · rw [(mem_times.mp hc).2]
    exact g.shows_space

end BlockLine

/-- Every row and every strip of a body is fit to be printed, whatever is in the text and in the
comments. -/
theorem shows_of_mem_body {l : Layout} (hg : l.glyphs.Printable) {e : Excerpt} {b : BlockLine}
    (hb : b ∈ body l e) : ∀ c ∈ b.print l, l.glyphs.Shows c := by
  have hellipsis (cut : Bool) :
      ∀ c ∈ (if cut then l.glyphs.ellipsis else []), l.glyphs.Shows c := by
    cases cut
    · simp
    · exact hg.ellipsis
  have hframe {glyph : Char} (h : l.glyphs.Shows glyph) :
      ∀ c ∈ [' ', glyph, ' '], l.glyphs.Shows c := by
    simp [h, l.glyphs.shows_space]
  obtain ⟨i, hi, row, -, hb⟩ := exists_of_mem_body hb
  rcases List.mem_cons.mp hb with rfl | hb
  · have hnumber : ∀ c ∈ (e.lineNumber.map (· + (i : Int))).elim [] decimal, l.glyphs.Shows c := by
      cases e.lineNumber with
      | none => simp
      | some n => exact l.glyphs.shows_of_mem_decimal
    simp only [BlockLine.print, List.forall_mem_append]
    exact ⟨⟨⟨⟨BlockLine.shows_numberColumns _ hnumber, hframe hg.row⟩, hellipsis _⟩,
      hg.display _⟩, hellipsis _⟩
  · obtain ⟨s, hs, hb⟩ := List.mem_flatMap.mp hb
    obtain ⟨line, hline, rfl⟩ := List.mem_map.mp hb
    simp only [BlockLine.print, List.forall_mem_append]
    exact ⟨⟨BlockLine.shows_numberColumns _ (by simp), hframe hg.strip⟩,
      Layout.shows_of_mem_rowStrips hg s hs line hline⟩

/-- No line of a body has a control character, and none has a character outside ASCII if only ASCII
may be shown. Showing text never moves it. -/
theorem sanitised_body (o : Options) (margin : Int) (e : Excerpt) :
    let l := Layout.ofOptions margin o
    (∀ line ∈ (body l e).map (BlockLine.print l), ∀ c ∈ line,
      0x20 ≤ c.toNat ∧ c.toNat ≠ 0x7F ∧ (o.ascii = true → c.toNat ≤ 0x7E)) ∧
    ∀ s, Glyphs.unicode.ShowsInPlace s ∧ Glyphs.ascii.ShowsInPlace s := by
  intro l
  refine ⟨fun line hline c hc => ?_, fun s =>
    ⟨Glyphs.printable_unicode.showsInPlace s, Glyphs.printable_ascii.showsInPlace s⟩⟩
  obtain ⟨b, hb, rfl⟩ := List.mem_map.mp hline
  obtain ⟨hl, hdelete, hu⟩ := shows_of_mem_body o.printable_glyphs hb c hc
  refine ⟨hl, hdelete, fun hascii => Nat.le_of_lt_succ (hu ?_)⟩
  change o.glyphs.placeholder.isSome
  rw [Options.glyphs, if_pos hascii]
  rfl

/-- A bell in the text and a line feed in the comment. -/
theorem sanitised_body_ascii :
    let l := Layout.ofOptions 1 { ascii := true }
    let e : Excerpt := {
      lineNumber := some 7
      text := .owned "a\tb\x07é".toList
      highlights := [⟨0, 4, 1, some "x\ny".toList⟩] }
    let line := "7 | a b??".toList
    let strip := "  :     ^ x?y".toList
    line ∈ (body l e).map (BlockLine.print l) ∧ strip ∈ (body l e).map (BlockLine.print l) ∧
      ∀ c ∈ line ++ strip, 0x20 ≤ c.toNat ∧ c.toNat ≤ 0x7E := by
  intro l e line strip
  have hbody : (body l e).map (BlockLine.print l) = [line, strip] := by cbv
  have hline : line ∈ (body l e).map (BlockLine.print l) := by simp [hbody]
  have hstrip : strip ∈ (body l e).map (BlockLine.print l) := by simp [hbody]
  obtain ⟨hall, -⟩ := sanitised_body { ascii := true } 1 e
  refine ⟨hline, hstrip, fun c hc => ?_⟩
  rcases List.mem_append.mp hc with hc | hc
  · obtain ⟨hl, -, hu⟩ := hall line hline c hc
    exact ⟨hl, hu rfl⟩
  · obtain ⟨hl, -, hu⟩ := hall strip hstrip c hc
    exact ⟨hl, hu rfl⟩

end Frame

end SourceReport

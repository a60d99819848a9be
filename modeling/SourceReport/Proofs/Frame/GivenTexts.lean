import SourceReport.Proofs.Frame.Printable
import SourceReport.Proofs.Text.Pieces

namespace SourceReport
open Text

def Text.IsControl (c : Char) : Prop := c.toNat < 0x20 ∨ c.toNat = 0x7F

instance (c : Char) : Decidable (IsControl c) := inferInstanceAs (Decidable (_ ∨ _))

theorem Glyphs.Shows.not_isControl {g : Glyphs} {c : Char} (h : g.Shows c) : ¬ IsControl c := by
  obtain ⟨hl, hdelete, -⟩ := h
  unfold IsControl
  omega

theorem Glyphs.not_mem_of_shows {g : Glyphs} {s : List Char} (h : ∀ c ∈ s, g.Shows c) {c : Char}
    (hc : IsControl c) : c ∉ s := fun hmem => (h c hmem).not_isControl hc

theorem Options.shows_ends (o : Options) :
    (∀ c ∈ o.glyphs.openingSource, o.glyphs.Shows c) ∧
      (∀ c ∈ o.glyphs.closingNote, o.glyphs.Shows c) ∧
      o.glyphs.Shows o.glyphs.opening ∧ o.glyphs.Shows o.glyphs.closing := by
  have hall {g : Glyphs} {a b c : Char} (ha : g.Shows a) (hb : g.Shows b) (hc : g.Shows c) :
      ∀ d ∈ [a, b, c], g.Shows d :=
    List.forall_mem_cons.mpr ⟨ha, List.forall_mem_cons.mpr ⟨hb, List.forall_mem_singleton.mpr hc⟩⟩
  rcases o.glyphs_cases with h | h <;> rw [h]
  · exact ⟨hall (by decide) (by decide) (by decide), hall (by decide) (by decide) (by decide),
      by decide, by decide⟩
  · exact ⟨hall (by decide) (by decide) (by decide), hall (by decide) (by decide) (by decide),
      by decide, by decide⟩

namespace Frame

/-- The texts that the lines of an excerpt show as they are given: the name of the source where the
frame opens or there is only a place, and the note where the frame closes. -/
def givenTexts (role : Role) (note : Option (List Char)) (e : Excerpt) : List (List Char) :=
  if e.text.isEmpty then e.source.toList
  else (if role.opens then e.source.toList else []) ++ if role.closes then note.toList else []

section
variable {c : Char} (hc : IsControl c)
include hc

theorem mem_locator_iff (e : Excerpt) : c ∈ e.locator ↔ ∃ s ∈ e.source.toList, c ∈ s := by
  have hdecimal (n : Int) : c ∉ decimal n :=
    Glyphs.not_mem_of_shows Glyphs.unicode.shows_of_mem_decimal hc
  have hcolon : c ≠ ':' := by
    rintro rfl
    exact absurd hc (by decide)
  have hsource : c ∈ e.source.getD [] ↔ ∃ s ∈ e.source.toList, c ∈ s := by
    cases e.source <;> simp
  rw [← hsource, Excerpt.locator, List.mem_append, or_iff_left_iff_imp]
  intro hmem
  -- after the source there are only colons and numbers
  split at hmem
  · cases hmem
  · simp only [List.cons_append, List.mem_cons, hcolon, List.mem_append, hdecimal, false_or] at hmem
    split at hmem
    · split at hmem
      · simp [hcolon, hdecimal] at hmem
      · cases hmem
    · cases hmem

theorem mem_brackets_iff {before : List Char} (hbefore : c ∉ before) (s : List Char) :
    c ∈ before ++ s ++ [']'] ↔ c ∈ s := by
  have hbracket : c ≠ ']' := by
    rintro rfl
    exact absurd hc (by decide)
  simp [hbefore, hbracket]

theorem not_mem_afterMargin {g : Glyphs} {shown : List Char} (h : ∀ d ∈ shown, g.Shows d)
    (margin : Int) : c ∉ BlockLine.numberColumns margin [] ++ ' ' :: shown := by
  apply Glyphs.not_mem_of_shows (g := g) _ hc
  rw [List.forall_mem_append, List.forall_mem_cons]
  exact ⟨BlockLine.shows_numberColumns g (by simp), g.shows_space, h⟩

theorem mem_print_place_iff (l : Layout) (e : Excerpt) :
    c ∈ (BlockLine.place e.locator).print l ↔ ∃ s ∈ e.source.toList, c ∈ s := by
  have hbracket : c ∉ ['['] := by
    intro hmem
    rw [List.mem_singleton.mp hmem] at hc
    exact absurd hc (by decide)
  exact (mem_brackets_iff hc hbracket e.locator).trans (mem_locator_iff hc e)

variable {l : Layout} {o : Options} (hl : l.glyphs = o.glyphs)
include hl

theorem mem_print_opening_iff (e : Excerpt) :
    c ∈ (BlockLine.opening (e.source.map fun _ => e.locator)).print l ↔
      ∃ s ∈ e.source.toList, c ∈ s := by
  obtain ⟨hglyphs, -, hglyph, -⟩ := o.shows_ends
  rw [← hl] at hglyphs hglyph
  have hlocator := mem_locator_iff hc e
  cases hs : e.source with
  | none =>
    have hline := not_mem_afterMargin hc (List.forall_mem_singleton.mpr hglyph) l.margin
    exact iff_of_false hline (by simp)
  | some s =>
    have hline := mem_brackets_iff hc (not_mem_afterMargin hc hglyphs l.margin) e.locator
    rw [hs] at hlocator
    exact hline.trans hlocator

theorem mem_print_closing_iff (note : Option (List Char)) :
    c ∈ (BlockLine.closing note).print l ↔ ∃ s ∈ note.toList, c ∈ s := by
  obtain ⟨-, hglyphs, -, hglyph⟩ := o.shows_ends
  rw [← hl] at hglyphs hglyph
  cases note with
  | none =>
    have hline := not_mem_afterMargin hc (List.forall_mem_singleton.mpr hglyph) l.margin
    exact iff_of_false hline (by simp)
  | some s =>
    have hline := mem_brackets_iff hc (not_mem_afterMargin hc hglyphs l.margin) s
    exact hline.trans (by simp)

theorem not_mem_print_body {e : Excerpt} {b : BlockLine} (hb : b ∈ body l e) : c ∉ b.print l := by
  have hg : l.glyphs.Printable := by
    rw [hl]
    exact o.printable_glyphs
  exact Glyphs.not_mem_of_shows (shows_of_mem_body hg hb) hc

theorem mem_excerptLines_iff {e : Excerpt} (hshown : e.isEmpty = false) (role : Role)
    (note : Option (List Char)) :
    (∃ b ∈ excerptLines l role note e, c ∈ b.print l) ↔ ∃ s ∈ givenTexts role note e, c ∈ s := by
  unfold excerptLines givenTexts
  rw [if_neg (by simp [hshown])]
  cases htext : e.text.isEmpty with
  | true =>
    rw [if_pos rfl, if_pos rfl, ← mem_print_place_iff hc l e]
    simp
  | false =>
    -- the body shows pictures for control characters, so only the ends of the frame count
    have hbody : ¬ ∃ b ∈ body l e, c ∈ b.print l := fun ⟨b, hb, hmem⟩ =>
      not_mem_print_body hc hl hb hmem
    have hopening := mem_print_opening_iff hc hl e
    have hclosing := mem_print_closing_iff hc hl note
    rw [if_neg Bool.false_ne_true, if_neg Bool.false_ne_true]
    simp only [List.mem_append, or_and_right, exists_or, hbody, or_false]
    apply or_congr
    · cases role.opens
      · simp
      · simpa using hopening
    · cases role.closes
      · simp
      · simpa using hclosing

end

/-- No line of a block has a control character, unless a source's name or the note brings it in. -/
theorem not_mem_of_mem_sharedDrawnLines {c : Char} (hc : IsControl c) (o : Options)
    {note : Option (List Char)} {excerpts : List Excerpt} (hnote : ∀ s, note = some s → c ∉ s)
    (hsource : ∀ e ∈ excerpts, ∀ s, e.source = some s → c ∉ s) :
    ∀ line ∈ Excerpt.sharedDrawnLines excerpts note o, c ∉ line := by
  intro line hline hmem
  obtain ⟨b, hb, rfl⟩ := List.mem_map.mp hline
  obtain ⟨e, he, role, hb⟩ := exists_excerpt_of_mem_sharedLines hb
  have hplain : ¬ ∃ s ∈ e.source.toList, c ∈ s := by simpa using hsource e he
  rcases mem_excerptLines_cases hb with ⟨-, hb⟩ | rfl | rfl | rfl
  · exact not_mem_print_body hc (o := o) rfl hb hmem
  · exact hplain ((mem_print_opening_iff hc (o := o) rfl e).mp hmem)
  · exact hplain ((mem_print_place_iff hc _ e).mp hmem)
  · have hgiven := (mem_print_closing_iff hc (o := o) rfl note).mp hmem
    simp only [Option.mem_toList] at hgiven
    obtain ⟨s, hs, hmem⟩ := hgiven
    exact hnote s hs hmem

theorem body_ne_nil (l : Layout) {e : Excerpt} (htext : e.text.isEmpty = false) :
    body l e ≠ [] := by
  have hlines : e.logicalLines ≠ [] := by
    rw [Ne, Excerpt.logicalLines_eq_nil, htext]
    exact Bool.false_ne_true
  obtain ⟨line, lines, hcons⟩ := List.exists_cons_of_ne_nil hlines
  obtain ⟨first, more, hrows, -⟩ := (l.tiles_rows (highlightsOn e 0) line.length).exists_first
  rw [body_eq, hcons, List.mapIdx_cons, List.flatten_cons, rowsOn, hrows, List.flatMap_cons]
  simp [drawnRow, rowLines]

theorem excerptLines_ne_nil (l : Layout) (role : Role) (note : Option (List Char)) {e : Excerpt}
    (hshown : e.isEmpty = false) : excerptLines l role note e ≠ [] := by
  unfold excerptLines
  rw [if_neg (by simp [hshown])]
  cases htext : e.text.isEmpty with
  | true => simp
  | false =>
    rw [if_neg Bool.false_ne_true]
    simp [body_ne_nil l htext]

/-- A control character stands in the lines of an excerpt exactly if it stands in a text that they
show as it is given, whatever the excerpt's text and comments hold. The lines are what the rendering
falls apart into at its line feeds exactly if these texts have none. -/
theorem control_iff_given (o : Options) (note : Option (List Char)) (placement : Placement)
    (e : Excerpt) (hshown : e.isEmpty = false) :
    let lines := e.drawnLines note placement o
    let given := givenTexts placement.role note e
    (∀ c, IsControl c → ((∃ line ∈ lines, c ∈ line) ↔ ∃ s ∈ given, c ∈ s)) ∧
    (pieces '\n' (e.render note placement o) = lines ↔ ∀ s ∈ given, '\n' ∉ s) := by
  intro lines given
  have hcontrol : ∀ c, IsControl c → ((∃ line ∈ lines, c ∈ line) ↔ ∃ s ∈ given, c ∈ s) := by
    intro c hc
    have hiff := mem_excerptLines_iff (l := .ofOptions (placement.margin.getD e.margin) o) hc rfl
      hshown placement.role note
    simpa only [lines, Excerpt.drawnLines, List.mem_map, exists_exists_and_eq_and] using hiff
  have hlines : lines ≠ [] := by
    simpa [lines, Excerpt.drawnLines] using excerptLines_ne_nil _ placement.role note hshown
  refine ⟨hcontrol, (pieces_joinLines_eq_iff hlines).trans ?_⟩
  have hfeed := hcontrol '\n' (by decide)
  simpa only [not_exists, not_and] using not_congr hfeed

/-- A bell in the text and a line feed in the comment are not in the lines, but the note's tab
is. -/
theorem control_iff_given_tab :
    let e : Excerpt := {
      source := some "a.txt".toList
      lineNumber := some 7
      text := .owned "a\x07b\nc".toList
      highlights := [⟨0, 1, 1, some "x\ny".toList⟩] }
    let note := some "see\tbelow".toList
    e.isEmpty = false ∧ (∃ line ∈ e.drawnLines note {} {}, '\t' ∈ line) ∧
      (¬ ∃ line ∈ e.drawnLines note {} {}, '\x07' ∈ line) ∧
      pieces '\n' (e.render note {} {}) = e.drawnLines note {} {} := by
  intro e note
  have hshown : e.isEmpty = false := rfl
  obtain ⟨hcontrol, hpieces⟩ := control_iff_given {} note {} e hshown
  have hgiven : givenTexts .solo note e = ["a.txt".toList, "see\tbelow".toList] := rfl
  have htab := hcontrol '\t' (by decide)
  have hbell := hcontrol '\x07' (by decide)
  rw [hgiven] at htab hbell hpieces
  exact ⟨hshown, htab.mpr (by decide), fun h => absurd (hbell.mp h) (by decide),
    hpieces.mpr (by decide)⟩

def brokenName : Excerpt where
  source := some "a\nb".toList
  text := .owned ['x']

/-- A line feed in the name of a source breaks the line that opens the frame. -/
theorem control_in_opening :
    ¬ ∀ (o : Options) (note : Option (List Char)) (placement : Placement) (e : Excerpt),
      e.isEmpty = false →
      let l := Layout.ofOptions (placement.margin.getD e.margin) o
      (∀ b ∈ excerptLines l placement.role note e, b ∉ body l e → ∀ c ∈ b.print l,
        ¬ IsControl c) ∧
      pieces '\n' (e.render note placement o) = e.drawnLines note placement o := by
  intro h
  obtain ⟨-, hpieces⟩ := h {} none {} brokenName rfl
  have hlines : brokenName.drawnLines none {} {} =
      [" ╭─[a\nb]".toList, " │ x".toList, " ╵".toList] := by cbv
  rw [Excerpt.render, hlines] at hpieces
  exact absurd hpieces (by decide)

end Frame

end SourceReport

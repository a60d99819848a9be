import SourceReport.Options
import SourceReport.Text.Blank

namespace SourceReport
open Text

namespace Glyphs

theorem isBlank_picture : ∀ n < 0x20, isBlank (Char.ofNat (n + 0x2400)) = false := by decide

theorem isBlank_displayChar_unicode {c : Char} (h : isBlank c = false) :
    isBlank (unicode.displayChar c) = false := by
  simp only [displayChar, unicode]
  split
  · rename_i hc
    exact isBlank_picture c.toNat hc
  · split
    · decide
    · exact h

theorem isBlank_displayChar_ascii {c : Char} (h : isBlank c = false) :
    isBlank (ascii.displayChar c) = false := by
  simp only [displayChar, ascii]
  split
  · rename_i hc
    subst hc
    exact absurd h (by decide)
  · split
    · decide
    · exact h

end Glyphs

namespace Options

theorem glyphs_cases (o : Options) : o.glyphs = .unicode ∨ o.glyphs = .ascii := by
  unfold glyphs
  split
  · exact .inr rfl
  · exact .inl rfl

theorem ellipsis_pos (o : Options) : 0 < o.glyphs.ellipsis.length := by
  rcases o.glyphs_cases with h | h <;> rw [h] <;> decide

theorem isBlankText_display (o : Options) {s : List Char} (h : isBlankText s = false) :
    isBlankText (o.glyphs.display s) = false := by
  obtain ⟨c, hc, hb⟩ := List.all_eq_false.mp h
  have hb : isBlank c = false := by simpa using hb
  refine List.all_eq_false.mpr ⟨o.glyphs.displayChar c, List.mem_map_of_mem hc, ?_⟩
  rcases o.glyphs_cases with hg | hg <;> rw [hg]
  · simp [Glyphs.isBlank_displayChar_unicode hb]
  · simp [Glyphs.isBlank_displayChar_ascii hb]

end Options

end SourceReport

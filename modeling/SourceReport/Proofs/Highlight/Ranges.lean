import SourceReport.Excerpt.Make
import SourceReport.Proofs.Frame.Marks
import SourceReport.Proofs.Text.Pieces

namespace SourceReport

def FromStart : Option Int → Int → Prop
  | none, _ => True
  | some start, i => start ≤ i

/-- Whether a place is not after the stop of a range. Without a stop the range goes up to the length
of its line, or on without an end where the length is not known. -/
def UpToStop : Option Int → (inclusive : Bool) → (lineLength : Option Int) → Int → Prop
  | some stop, true, _, i => i ≤ stop
  | some stop, false, _, i => i < stop
  | none, _, some length, i => i < length
  | none, _, none, _ => True

def exclusiveStop (stop : Option Int) (inclusive : Bool) : Option Int :=
  if inclusive then stop.map (· + 1) else stop

theorem unbounded_nonneg : 0 ≤ unbounded := by decide

section
variable (start stop : Option Int) (inclusive : Bool) (lineLength : Option Int)

theorem offset_normalizeBounds :
    (normalizeBounds start stop inclusive lineLength).1 = max 0 (start.getD 0) := by
  cases start <;> cases stop <;> cases lineLength <;> rfl

theorem normalizeBounds_nonneg :
    0 ≤ (normalizeBounds start stop inclusive lineLength).1 ∧
      0 ≤ (normalizeBounds start stop inclusive lineLength).2 := by
  refine ⟨?_, ?_⟩
  · rw [offset_normalizeBounds]
    exact Int.le_max_left _ _
  · cases stop with
    | none =>
      cases lineLength with
      | none => exact unbounded_nonneg
      | some length => exact Int.le_max_left _ _
    | some stop => exact Int.le_min.mpr ⟨unbounded_nonneg, Int.le_max_left _ _⟩

theorem offset_normalizeBounds_le_iff (i : Nat) :
    (normalizeBounds start stop inclusive lineLength).1 ≤ i ↔ FromStart start i := by
  rw [offset_normalizeBounds]
  cases start with
  | none => simp [FromStart]
  | some start =>
    simp only [FromStart, Option.getD_some]
    omega

/-- The length is cut where no line reaches. So the places before the mended stop are those before
the stop of the range. -/
theorem lt_stop_normalizeBounds_iff {i : Nat} (hi : (i : Int) < unbounded)
    (hfirst : (normalizeBounds start stop inclusive lineLength).1 ≤ i) :
    (i : Int) < (normalizeBounds start stop inclusive lineLength).1 +
        (normalizeBounds start stop inclusive lineLength).2 ↔
      UpToStop stop inclusive lineLength i := by
  have hoffset := (normalizeBounds_nonneg start stop inclusive lineLength).1
  generalize hb : normalizeBounds start stop inclusive lineLength = bounds at *
  obtain ⟨offset, length⟩ := bounds
  simp only at hfirst hoffset ⊢
  cases stop with
  | none =>
    cases lineLength with
    | none =>
      obtain ⟨rfl, rfl⟩ := Prod.mk.inj hb
      simp only [UpToStop, iff_true]
      omega
    | some n =>
      obtain ⟨rfl, rfl⟩ := Prod.mk.inj hb
      simp only [UpToStop]
      omega
  | some last =>
    obtain ⟨rfl, rfl⟩ := Prod.mk.inj hb
    cases inclusive
    · simp only [UpToStop, Bool.false_eq_true, if_false]
      omega
    · simp only [UpToStop, if_true]
      omega

theorem normalizeBounds_exclusiveStop :
    normalizeBounds start (exclusiveStop stop inclusive) false lineLength =
      normalizeBounds start stop inclusive lineLength := by
  cases inclusive <;> cases stop <;> rfl

end

namespace Highlight

@[simp] theorem sort_singleton (h : Highlight) : sort [h] = [h] := List.mergeSort_singleton h

theorem covers_iff (h : Highlight) (length i : Nat) :
    h.Covers length i ↔ i < length ∧ h.offset ≤ i ∧ (i : Int) < h.stop := by
  unfold Covers firstOn stopOn
  omega

theorem covers_iff_of_normalizeBounds {h : Highlight} {length : Nat} {start stop : Option Int}
    {inclusive : Bool} {lineLength : Option Int}
    (hbounds : normalizeBounds start stop inclusive lineLength = (h.offset, h.length))
    (hknown : ∀ n, lineLength = some n → n = length) (hlen : (length : Int) ≤ unbounded) (i : Nat) :
    h.Covers length i ↔ i < length ∧ FromStart start i ∧ UpToStop stop inclusive none i := by
  rw [covers_iff]
  apply and_congr_right
  intro hi
  have hfirst := offset_normalizeBounds_le_iff start stop inclusive lineLength i
  rw [← hfirst, hbounds]
  apply and_congr_right
  intro hle
  have hlast := lt_stop_normalizeBounds_iff start stop inclusive lineLength
    (Int.lt_of_lt_of_le (Int.ofNat_lt.mpr hi) hlen) (by rwa [hbounds])
  rw [hbounds] at hlast
  refine hlast.trans ?_
  cases stop with
  | some last => cases inclusive <;> rfl
  | none =>
    cases lineLength with
    | none => rfl
    | some n =>
      obtain rfl := hknown n rfl
      simp only [UpToStop, iff_true]
      omega

end Highlight

namespace Excerpt
open Text

def wholeLine : Option Int → Passage → Excerpt
  | none, line => plain line
  | some index, line => fullLine index line

theorem addHighlight_wholeLine (index : Option Int) (line : Passage) {h : Highlight}
    (hzero : h.line = 0) :
    (wholeLine index line).addHighlight h = onLine index line h.offset h.length h.comment := by
  obtain ⟨_, offset, length, comment⟩ := h
  obtain rfl := hzero
  cases index <;> simp [wholeLine, plain, fullLine, addHighlight, onLine]

theorem lineRange_of_bound {start stop : Option Int} (hbound : start ≠ none ∨ stop ≠ none)
    (index : Option Int) (line : Passage) (comment : Option (List Char)) (inclusive : Bool) :
    lineRange index line start stop comment inclusive =
      onLine index line (normalizeBounds start stop inclusive (some line.length)).1
        (normalizeBounds start stop inclusive (some line.length)).2 comment := by
  unfold lineRange
  split
  · simp at hbound
  · simp at hbound
  · rfl

theorem multiple_slice (index : Option Int) {line : Passage} (hfree : '\n' ∉ line.content)
    (hne : line.content ≠ []) (start stop step : Option Int) (comment : Option (List Char)) :
    multiple index line [⟨0, some (.slice start stop step), comment⟩] =
      .ok (onLine index line (normalizeBounds start stop false (some line.length)).1
        (normalizeBounds start stop false (some line.length)).2 comment) := by
  unfold multiple
  have hstretch : Stretch.highlight? [line.length] ⟨0, some (.slice start stop step), comment⟩ =
      .ok ⟨0, (normalizeBounds start stop false (some line.length)).1,
        (normalizeBounds start stop false (some line.length)).2, comment⟩ := rfl
  simp only [splitLines_of_not_mem hfree hne, List.map_singleton, Passage.length_content,
    List.mapM_cons, List.mapM_nil, hstretch, pure_bind]
  change Except.ok _ = _
  rw [Highlight.sort_singleton]
  rfl

/-- Whether an excerpt is this line with the characters of a range highlighted in one stretch. -/
def HighlightsRange (e : Excerpt) (line : List Char) (start stop : Option Int) (inclusive : Bool) :
    Prop :=
  e.logicalLines = [line] ∧
    ∃ h, e.highlights = [h] ∧ h.line = 0 ∧ ∀ i, h.Covers line.length i ↔
      i < line.length ∧ FromStart start i ∧ UpToStop stop inclusive none i

theorem highlightsRange_onLine {line : Passage} (hfree : '\n' ∉ line.content)
    (hne : line.content ≠ []) (hlen : (line.length : Int) ≤ unbounded) {start stop : Option Int}
    {inclusive : Bool} {lineLength : Option Int}
    (hknown : ∀ n, lineLength = some n → n = line.length) {offset length : Int}
    (hbounds : normalizeBounds start stop inclusive lineLength = (offset, length))
    (index : Option Int) (comment : Option (List Char)) :
    (onLine index line offset length comment).HighlightsRange line.content start stop
      inclusive := by
  refine ⟨splitLines_of_not_mem hfree hne, ⟨0, offset, length, comment⟩, rfl, rfl, ?_⟩
  rw [Passage.length_content]
  exact Highlight.covers_iff_of_normalizeBounds hbounds hknown hlen

/-- The ends of a range are mended to the same places of a line as the range has, up to where a line
can reach. A range given by its bounds, one given as a stretch and one added to the whole line then
highlight the same characters. -/
theorem bounds_same_range (start stop : Option Int) (inclusive : Bool) :
    (∀ lineLength : Option Int,
      0 ≤ (normalizeBounds start stop inclusive lineLength).1 ∧
      0 ≤ (normalizeBounds start stop inclusive lineLength).2 ∧
      ∀ i : Nat, (i : Int) < unbounded →
        ((normalizeBounds start stop inclusive lineLength).1 ≤ i ∧
            (i : Int) < (normalizeBounds start stop inclusive lineLength).1 +
              (normalizeBounds start stop inclusive lineLength).2 ↔
          FromStart start i ∧ UpToStop stop inclusive lineLength i)) ∧
    ∀ (index : Option Int) (line : Passage) (comment : Option (List Char)),
      '\n' ∉ line.content → line.content ≠ [] → (line.length : Int) ≤ unbounded →
      (start ≠ none ∨ stop ≠ none →
        (lineRange index line start stop comment inclusive).HighlightsRange line.content start stop
          inclusive) ∧
      (∃ e, multiple index line
            [⟨0, some (.slice start (exclusiveStop stop inclusive) none), comment⟩] = .ok e ∧
          e.HighlightsRange line.content start stop inclusive) ∧
      ((wholeLine index line).addHighlight
          (.ofRange 0 start stop comment inclusive)).HighlightsRange line.content start stop
            inclusive := by
  refine ⟨?_, ?_⟩
  · intro lineLength
    obtain ⟨hoffset, hlength⟩ := normalizeBounds_nonneg start stop inclusive lineLength
    refine ⟨hoffset, hlength, ?_⟩
    intro i hi
    rw [← offset_normalizeBounds_le_iff start stop inclusive lineLength]
    exact and_congr_right fun hfirst =>
      lt_stop_normalizeBounds_iff start stop inclusive lineLength hi hfirst
  · intro index line comment hfree hne hlen
    have hlength : ∀ n, some (line.length : Int) = some n → n = line.length :=
      fun n hn => (Option.some.inj hn).symm
    refine ⟨?_, ?_, ?_⟩
    · intro hbound
      rw [lineRange_of_bound hbound]
      exact highlightsRange_onLine hfree hne hlen hlength rfl index comment
    · refine ⟨_, multiple_slice index hfree hne _ _ _ comment, ?_⟩
      rw [normalizeBounds_exclusiveStop]
      exact highlightsRange_onLine hfree hne hlen hlength rfl index comment
    · have hunknown : ∀ n, (none : Option Int) = some n → n = line.length := by simp
      rw [addHighlight_wholeLine index line rfl]
      exact highlightsRange_onLine hfree hne hlen hunknown rfl index comment

/-- A range from before a line to past its end, both ends in it, covers the line. -/
theorem bounds_same_range_outside :
    (0 ≤ (normalizeBounds (some (-2)) (some 9) true (some 6)).1 ∧
      ((5 : Nat) : Int) < unbounded ∧ FromStart (some (-2)) (5 : Nat) ∧
      UpToStop (some 9) true (some 6) (5 : Nat)) ∧
    (lineRange (some 2) (.owned "letter".toList) (some (-2)) (some 9) none true).HighlightsRange
      "letter".toList (some (-2)) (some 9) true ∧
    (∃ e, multiple (some 2) (.owned "letter".toList)
          [⟨0, some (.slice (some (-2)) (some 10) none), none⟩] = .ok e ∧
        e.HighlightsRange "letter".toList (some (-2)) (some 9) true) ∧
    ((wholeLine (some 2) (.owned "letter".toList)).addHighlight
      (.ofRange 0 (some (-2)) (some 9) none true)).HighlightsRange "letter".toList (some (-2))
        (some 9) true := by
  obtain ⟨hbounds, hlines⟩ := bounds_same_range (some (-2)) (some 9) true
  obtain ⟨hoffset, -, hplaces⟩ := hbounds (some 6)
  have hlast := (hplaces 5 (by decide)).mp (by decide)
  obtain ⟨hrange, hstretch, hadded⟩ :=
    hlines (some 2) (.owned "letter".toList) none (by decide) (by decide) (by decide)
  exact ⟨⟨hoffset, by decide, hlast⟩, hrange (.inl (by decide)), hstretch, hadded⟩

end Excerpt

end SourceReport

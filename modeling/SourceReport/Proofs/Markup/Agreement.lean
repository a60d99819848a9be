import SourceReport.Proofs.Markup.Runs

namespace SourceReport
open Text SourceReport.Frame

namespace Frame

instance (m : Mark) (column : Nat) : Decidable (m.Occupies column) :=
  inferInstanceAs (Decidable (_ ∧ _))

namespace Layout
variable (l : Layout) (length : Nat) (row : Row) (lead column : Nat) (h : Highlight)

/-- Whether the text of a row has the run of a highlight at a column. A point is no run. -/
def drawsRun : Bool :=
  decide (h.firstOn length ≠ h.stopOn length) &&
    (l.mark? length row lead h).any fun m => decide (m.Occupies column)

def drawsPoint : Bool :=
  decide (h.firstOn length = h.stopOn length) &&
    (l.mark? length row lead h).any fun m => m.column == column && m.glyph == [l.glyphs.point]

variable {length row lead h}

theorem drawsRun_eq (hlength : 0 ≤ h.length) {i : Nat} (hi : row.start ≤ i) (hlt : i < row.stop) :
    l.drawsRun length row lead (lead + (i - row.start)) h = decide (h.Covers length i) := by
  have hle : h.firstOn length ≤ h.stopOn length := by
    unfold Highlight.firstOn Highlight.stopOn Highlight.stop
    omega
  by_cases heq : h.firstOn length = h.stopOn length
  · have hcovers : ¬h.Covers length i := by
      rintro ⟨hfirst, hstop⟩
      omega
    simp [drawsRun, heq, hcovers]
  · rw [drawsRun, decide_eq_true heq, Bool.true_and, l.mark?_of_run heq]
    by_cases hshows : RunShows length row h
    · have hoccupies : (l.runMark length row lead h).Occupies (lead + (i - row.start)) ↔ _ :=
        l.occupies_runMark _ hshows (by omega) (Nat.lt_of_le_of_lt hi hlt)
      rw [if_pos hshows, Option.any_some]
      apply decide_eq_decide.mpr
      rw [hoccupies]
      constructor
      · rintro (⟨-, hbefore⟩ | ⟨k, hk, -, hcovers, hplace⟩)
        · omega
        · obtain rfl : i = k := by omega
          exact hcovers
      · intro hcovers
        exact .inr ⟨i, hi, hlt, hcovers, rfl⟩
    · have hcovers : ¬h.Covers length i := by
        rintro ⟨hfirst, hstop⟩
        apply hshows
        exact ⟨by omega, by omega⟩
      rw [if_neg hshows, decide_eq_false hcovers, Option.any_none]

theorem drawsPoint_iff : l.drawsPoint length row lead column h = true ↔
    h.firstOn length = h.stopOn length ∧ PointShows length row h ∧
      lead + (h.firstOn length - row.start).toNat = column := by
  rw [drawsPoint, Bool.and_eq_true, decide_eq_true_eq]
  apply and_congr_right
  intro heq
  rw [l.mark?_of_point heq]
  by_cases hshows : PointShows length row h <;> simp [hshows, pointMark]

/-- Before a character of the row, or after the last one, text has a point where the highlight is
empty and stands there; after the last character only where the line ends too. -/
theorem drawsPoint_eq {j : Nat} (hj : row.start + j ≤ row.stop) :
    l.drawsPoint length row lead (lead + j) h =
      (decide (row.start + j < row.stop ∨ row.stop = length) &&
        (h.firstOn length == h.stopOn length && h.stopOn length == (row.start + j : Nat))) := by
  rw [Bool.eq_iff_iff, drawsPoint_iff, PointShows]
  simp only [Bool.and_eq_true, decide_eq_true_eq, beq_iff_eq]
  omega

theorem exists_place_of_drawsPoint (hrow : row.start ≤ row.stop)
    (h : l.drawsPoint length row lead column h = true) :
    ∃ j, j ≤ row.stop - row.start ∧ column = lead + j := by
  obtain ⟨-, hshows, hcolumn⟩ := (l.drawsPoint_iff column).mp h
  refine ⟨_, ?_, hcolumn.symm⟩
  unfold PointShows at hshows
  omega

end Layout

end Frame

namespace Markup

def Token.pointTitle? : Token → Option (List Char)
  | .opening name [(key, value), (key', title)] =>
    if name = "span".toList ∧ key = "class".toList ∧ value = "highlight point".toList ∧
        key' = "title".toList then some title
    else none
  | _ => none

/-- The titles of the points among tokens, each with the number of characters before it, of which
there are `before` when the tokens start. -/
def points : (before : Nat) → List Token → List (Nat × List Char)
  | _, [] => []
  | before, t :: tokens =>
    t.pointTitle?.toList.map (before, ·) ++
      points (before + t.character?.toList.length) tokens

theorem characters_cons (t : Token) (tokens : List Token) :
    characters (t :: tokens) = t.character?.toList ++ characters tokens := by
  cases t <;> rfl

theorem points_append (before : Nat) (ts us : List Token) :
    points before (ts ++ us) =
      points before ts ++ points (before + (characters ts).length) us := by
  induction ts generalizing before with
  | nil => rfl
  | cons t ts ih =>
    rw [List.cons_append, points, ih, points, characters_cons, List.length_append,
      List.append_assoc, Nat.add_assoc]

def pointsIn (before : Nat) (ns : List Node) : List (Nat × List Char) :=
  points before (shownAll ns)

section
variable (before : Nat)

theorem pointsIn_append (ns ms : List Node) :
    pointsIn before (ns ++ ms) =
      pointsIn before ns ++ pointsIn (before + (characters (shownAll ns)).length) ms := by
  rw [pointsIn, shownAll_append, points_append]
  rfl

theorem pointsIn_text (c : Char) (ns : List Node) :
    pointsIn before (.text [c] :: ns) = pointsIn (before + 1) ns := rfl

theorem pointsIn_element (tag : Tag) (attributes : List (Attribute × List Char))
    (children ns : List Node) :
    pointsIn before (.element tag attributes children :: ns) =
      (openingToken tag attributes).pointTitle?.toList.map (before, ·) ++
        (pointsIn before children ++
          pointsIn (before + (characters (shownAll children)).length) ns) := by
  have hclosing : ∀ place, points place [.closing tag.name] = [] := fun _ => rfl
  have hopening : (openingToken tag attributes).character? = none := rfl
  rw [pointsIn, shownAll, points_append, characters_element, Node.shown, List.cons_append, points,
    hopening, points_append, hclosing, List.append_nil, List.append_assoc]
  rfl

theorem pointsIn_wrapRun (cover : List Highlight) (nodes : List Node) :
    pointsIn before (wrapRun cover nodes) = pointsIn before nodes := by
  have hrun : (openingToken .span
      [(.class_, "highlight".toList), (.title, coverTitle cover)]).pointTitle? = none := rfl
  unfold wrapRun
  split
  · rfl
  · rw [pointsIn_element, hrun]
    exact List.append_nil _

theorem characters_wrapRun (cover : List Highlight) (nodes : List Node) :
    characters (shownAll (wrapRun cover nodes)) = characters (shownAll nodes) := by
  unfold wrapRun
  split
  · rfl
  · rw [shownAll, shownAll, List.append_nil, characters_element]

theorem characters_pointsAt (clipped : List Clipped) (index : Int) :
    characters (shownAll (pointsAt clipped index)) = [] := by
  rw [← map_snd_enclosed [], ← shownIn, shownIn_pointsAt]
  rfl

def pointTitles (clipped : List Clipped) (index before : Nat) : List (Nat × List Char) :=
  (clipped.filter fun c => c.first == c.last && c.last == (index : Int)).map fun c =>
    (before, escape (c.highlight.comment.getD []))

theorem pointsIn_pointsAt (clipped : List Clipped) (index : Nat) :
    pointsIn before (pointsAt clipped index) = pointTitles clipped index before := by
  rw [pointsAt, pointTitles]
  induction clipped.filter fun c => c.first == c.last && c.last == (index : Int) with
  | nil => rfl
  | cons c rest ih =>
    rw [List.map_cons, List.map_cons, pointNode, pointsIn_element, ← ih]
    rfl

theorem pointsIn_pointsAt_append (clipped : List Clipped) (index : Nat) (ns : List Node) :
    pointsIn before (pointsAt clipped index ++ ns) =
      pointTitles clipped index before ++ pointsIn before ns := by
  rw [pointsIn_append, characters_pointsAt, pointsIn_pointsAt]
  rfl

/-- The points of a row come place by place. The place after the last character counts only where
the line ends. -/
theorem pointsIn_runNodes (clipped : List Clipped) (endsLine : Bool) (cover : List Highlight)
    (index : Nat) (s : List Char) :
    pointsIn before ((runNodes clipped endsLine cover index s).1 ++
        (runNodes clipped endsLine cover index s).2) =
      ((List.range s.length).flatMap fun j => pointTitles clipped (index + j) (before + j)) ++
        if endsLine then pointTitles clipped (index + s.length) (before + s.length) else [] := by
  induction s generalizing before cover index with
  | nil =>
    have hpoints : pointsIn before (if endsLine then pointsAt clipped index else []) =
        if endsLine then pointTitles clipped index before else [] := by
      cases endsLine
      · rfl
      · exact pointsIn_pointsAt before clipped index
    have hwrap : ∀ place, pointsIn place (wrapRun (coverOf clipped index) []) = [] := by
      intro place
      exact pointsIn_wrapRun place _ _
    rw [runNodes, pointsIn_append]
    split
    · rw [hpoints]
      exact List.append_nil _
    · rw [hpoints, hwrap]
      exact List.append_nil _
  | cons c s ih =>
    have hrest := ih (before + 1) (coverOf clipped index) (index + 1)
    have hnext : ∀ n j : Nat, n + 1 + j = n + (j + 1) := by
      intro n j
      omega
    simp only [hnext] at hrest
    rw [List.length_cons, List.range_succ_eq_map, List.flatMap_cons, List.flatMap_map,
      List.append_assoc, Nat.add_zero, Nat.add_zero, ← hrest, runNodes]
    dsimp only
    split
    · rw [List.append_assoc, pointsIn_pointsAt_append, List.cons_append, pointsIn_text]
    · have hcount : ∀ ns, before + (characters (shownAll (.text [c] :: ns))).length =
          before + 1 + (characters (shownAll ns)).length := by
        intro ns
        exact (Nat.add_right_comm before _ 1).trans rfl
      rw [pointsIn_pointsAt_append, pointsIn_append, pointsIn_wrapRun, characters_wrapRun,
        pointsIn_text, hcount, ← pointsIn_append]

end

/-- The points of a row are those that its text draws, each as many characters from the left. -/
theorem points_rowNodes (l : Layout) (lead : Nat) {line : List Char} {row : Row}
    (highlights : List Highlight) (hle : row.start ≤ row.stop) (hstop : row.stop ≤ line.length) :
    points 0 (shownAll (rowNodes line row highlights)) =
      (List.range (row.stop - row.start + 1)).flatMap fun j =>
        (highlights.filter (l.drawsPoint line.length row lead (lead + j))).map fun h =>
          (j, escape (h.comment.getD [])) := by
  have hplace : ∀ j, row.start + j ≤ row.stop →
      (highlights.filter (l.drawsPoint line.length row lead (lead + j))).map
          (fun h => (j, escape (h.comment.getD []))) =
        if row.start + j < row.stop ∨ row.stop = line.length then
          pointTitles (highlights.map (clip line.length)) (row.start + j) j else [] := by
    intro j hj
    have hdrawn : ∀ h ∈ highlights, l.drawsPoint line.length row lead (lead + j) h =
        (decide (row.start + j < row.stop ∨ row.stop = line.length) &&
          ((clip line.length h).first == (clip line.length h).last &&
            (clip line.length h).last == ((row.start + j : Nat) : Int))) := by
      intro h _
      exact l.drawsPoint_eq hj
    rw [List.filter_congr hdrawn, pointTitles, List.filter_map, List.map_map]
    split
    · rename_i hshown
      simp only [hshown, decide_true, Bool.true_and]
      rfl
    · rename_i hshown
      simp [hshown]
  have hruns := pointsIn_runNodes 0 (highlights.map (clip line.length))
    (row.stop == line.length) [] row.start (rowText line row)
  rw [length_rowText hstop] at hruns
  have hends : row.start + (row.stop - row.start) = row.stop := Nat.add_sub_cancel' hle
  have hbetween : ∀ j ∈ List.range (row.stop - row.start),
      pointTitles (highlights.map (clip line.length)) (row.start + j) (0 + j) =
        (highlights.filter (l.drawsPoint line.length row lead (lead + j))).map fun h =>
          (j, escape (h.comment.getD [])) := by
    intro j hj
    have hlt : row.start + j < row.stop := by
      have := List.mem_range.mp hj
      omega
    rw [hplace j (Nat.le_of_lt hlt), if_pos (.inl hlt), Nat.zero_add]
  rw [List.range_succ, List.flatMap_append, List.flatMap_singleton, hplace _ (Nat.le_of_eq hends),
    ← List.flatMap_congr hbetween]
  refine hruns.trans ?_
  simp only [hends, Nat.zero_add, beq_iff_eq, Nat.lt_irrefl, false_or]

/-- On a row of a line, under highlights that are not shorter than empty, a character stands in the
markup run of exactly those highlights whose run of glyphs the text has in the character's column.
The points of the markup are those of the text, between the same characters. -/
theorem renderers_agree (l : Layout) (chars : List Char) (span : Option (Int × Int)) (budget : Nat)
    (hb : 0 < budget) (row : Row) (hrow : row ∈ lineRows chars.length span budget) (lead : Nat)
    (highlights : List Highlight) (hlength : ∀ h ∈ highlights, 0 ≤ h.length) :
    ∃ tokens, read (printAll (rowNodes chars row highlights)) = some tokens ∧
      (∀ i, row.start ≤ i → i < row.stop →
        let drawn := highlights.filter
          (l.drawsRun chars.length row lead (lead + (i - row.start)))
        coverOf (highlights.map (clip chars.length)) i = drawn ∧
          ∃ c, chars[i]? = some c ∧
            (enclosed [] tokens)[i - row.start]? = some (runTags drawn, c)) ∧
      (points 0 tokens = (List.range (row.stop - row.start + 1)).flatMap fun j =>
        (highlights.filter (l.drawsPoint chars.length row lead (lead + j))).map fun h =>
          (j, escape (h.comment.getD []))) ∧
      ∀ h ∈ highlights, ∀ column, l.drawsPoint chars.length row lead column h = true →
        ∃ j, j ≤ row.stop - row.start ∧ column = lead + j := by
  obtain ⟨-, hle, hstop, -⟩ := (tiles_lineRows hb span).bounds (lineStart_le ..) row hrow
  refine ⟨_, read_printAll _, ?_, ?_, ?_⟩
  · intro i hi hlt
    have hdrawn : covering highlights chars.length i = highlights.filter
        (l.drawsRun chars.length row lead (lead + (i - row.start))) := by
      apply List.filter_congr
      intro h hmem
      exact (l.drawsRun_eq (hlength h hmem) hi hlt).symm
    obtain ⟨c, hc, hshown⟩ := enclosed_rowNodes highlights hi hlt hstop
    rw [hdrawn] at hshown
    exact ⟨(coverOf_eq_covering highlights chars.length i).trans hdrawn, c, hc, hshown⟩
  · exact points_rowNodes l lead highlights hle hstop
  · intro h _ column hdraws
    exact l.exists_place_of_drawsPoint column hle hdraws

/-- The second row of a line. A run comes in from the first, and there are points on the row and at
the end of the line. -/
theorem renderers_agree_wrapped :
    let line := "let x = 2 + y;".toList
    let run : Highlight := ⟨0, 4, 7, some "sum".toList⟩
    let highlights := [run, ⟨0, 12, 0, some "a < b".toList⟩, ⟨0, 14, 0, none⟩]
    let row : Row := ⟨10, 14⟩
    0 < 10 ∧ row ∈ lineRows line.length (highlightSpan highlights line.length) 10 ∧
      (∀ h ∈ highlights, 0 ≤ h.length) ∧
      ∃ tokens, read (printAll (rowNodes line row highlights)) = some tokens ∧
        (enclosed [] tokens)[0]? = some ([runTag [run]], '+') ∧
        (enclosed [] tokens)[1]? = some ([], ' ') ∧
        points 0 tokens = [(2, "a &lt; b".toList), (4, [])] := by
  intro line run highlights row
  have hspan : highlightSpan highlights line.length = some (4, 14) := by decide
  have hrow : row ∈ lineRows line.length (highlightSpan highlights line.length) 10 := by
    have hfirst : firstStart line.length (some (4, 14)) = 0 := by decide
    have hrows : rowsFrom line.length 10 0 = [⟨0, 10⟩, ⟨10, 14⟩] := by
      rw [rowsFrom, if_pos (by decide), rowsFrom, if_neg (by decide)]
      rfl
    rw [hspan, lineRows, if_neg (by decide), hfirst, hrows]
    decide
  have hlength : ∀ h ∈ highlights, 0 ≤ h.length := by decide
  obtain ⟨tokens, hread, hruns, hpoints, -⟩ :=
    renderers_agree (.ofOptions 1 {}) line _ 10 (by decide) row hrow 1 highlights hlength
  obtain ⟨hcover, c, hc, hinside⟩ := hruns 10 (by decide) (by decide)
  obtain ⟨hnone, d, hd, hfree⟩ := hruns 11 (by decide) (by decide)
  have hplus : some '+' = some c := hc
  have hspace : some ' ' = some d := hd
  obtain rfl := Option.some.inj hplus
  obtain rfl := Option.some.inj hspace
  rw [← hcover] at hinside
  rw [← hnone] at hfree
  exact ⟨by decide, hrow, hlength, tokens, hread, hinside, hfree, hpoints⟩

end Markup

end SourceReport

import SourceReport.Frame.Block
import SourceReport.Proofs.Frame.Rows
import SourceReport.Proofs.Frame.Display

namespace SourceReport

theorem Text.length_decimal_le {a b : Int} (ha : 0 ≤ a) (hab : a ≤ b) :
    (decimal a).length ≤ (decimal b).length := by
  obtain ⟨m, rfl⟩ := Int.eq_ofNat_of_zero_le ha
  obtain ⟨n, rfl⟩ := Int.eq_ofNat_of_zero_le (Int.le_trans ha hab)
  change (Nat.toDigits 10 m).length ≤ (Nat.toDigits 10 n).length
  have hpos : 0 < (Nat.toDigits 10 n).length := Nat.length_toDigits_pos
  have hn := (Nat.length_toDigits_le_iff (by decide) hpos).mp (Nat.le_refl _)
  exact (Nat.length_toDigits_le_iff (by decide) hpos).mpr (Nat.lt_of_le_of_lt (by omega) hn)

theorem Excerpt.length_number_le {e : Excerpt} {margin : Nat} (hm : e.margin ≤ margin)
    (hn : ∀ n, e.lineNumber = some n → 1 ≤ n) {i : Nat} (hi : i < e.logicalLines.length) :
    ((e.lineNumber.map (· + (i : Int))).elim [] Text.decimal).length ≤ margin := by
  cases hline : e.lineNumber with
  | none => exact Nat.zero_le _
  | some n =>
    have h1 := hn n hline
    unfold Excerpt.margin at hm
    rw [hline] at hm
    refine Nat.le_trans ?_ hm
    change (Text.decimal (n + i)).length ≤ _
    apply Text.length_decimal_le <;> omega

theorem Excerpt.locator_map (f : Highlight → Highlight) (hline : ∀ h, (f h).line = h.line)
    (hoffset : ∀ h, (f h).offset = h.offset) (e : Excerpt) :
    ({ e with highlights := e.highlights.map f } : Excerpt).locator = e.locator := by
  unfold Excerpt.locator
  match e.highlights with
  | [] => rfl
  | [h] => simp only [List.map_cons, List.map_nil, hline, hoffset]
  | _ :: _ :: _ => rfl

namespace Frame
open Text

theorem le_foldl_max (widths : List Nat) (start : Nat) :
    start ≤ widths.foldl max start ∧ ∀ w ∈ widths, w ≤ widths.foldl max start := by
  induction widths generalizing start with
  | nil => simp
  | cons v vs ih =>
    obtain ⟨hstart, hall⟩ := ih (max start v)
    rw [List.foldl_cons]
    refine ⟨by omega, ?_⟩
    intro w hw
    rcases List.mem_cons.mp hw with rfl | hw
    · omega
    · exact hall w hw

theorem margin_le_sharedMargin {excerpts : List Excerpt} {e : Excerpt} (he : e ∈ excerpts)
    (ht : e.text.isEmpty = false) : e.margin ≤ sharedMargin excerpts :=
  (le_foldl_max _ 0).2 _ (List.mem_map_of_mem (List.mem_filter.mpr ⟨he, by simp [ht]⟩))

namespace Layout

def rows (l : Layout) (highlights : List Highlight) (length : Nat) : List Row :=
  lineRows length (highlightSpan highlights length) l.budget

def firstStart (l : Layout) (highlights : List Highlight) (length : Nat) : Nat :=
  lineStart length (highlightSpan highlights length) l.budget

theorem budget_pos (l : Layout) : 0 < l.budget :=
  Nat.lt_of_lt_of_le (by decide) l.leastBudget_le_budget

theorem tiles_rows (l : Layout) (highlights : List Highlight) (length : Nat) :
    Tiles length l.budget (l.firstStart highlights length) (l.rows highlights length) :=
  tiles_lineRows l.budget_pos _

def lead (l : Layout) (cutStart : Bool) (row : Row) : Nat :=
  if decide (0 < row.start) || cutStart then l.glyphs.ellipsis.length else 0

theorem lead_le (l : Layout) (cutStart : Bool) (row : Row) :
    l.lead cutStart row ≤ l.glyphs.ellipsis.length := by
  unfold lead
  split <;> omega

def markOn (l : Layout) (cutStart : Bool) (length : Nat) (row : Row) (h : Highlight) :
    Option Mark :=
  l.mark? length row (l.lead cutStart row) h

end Layout

def rowsOn (l : Layout) (e : Excerpt) (i : Nat) (line : List Char) : List Row :=
  l.rows (highlightsOn e i) line.length

/-- What is drawn for one of these rows: the row itself and then the strips under it. -/
def drawnRow (l : Layout) (e : Excerpt) (i : Nat) (line : List Char) (row : Row) :
    List BlockLine :=
  rowLines l (highlightsOn e i) (e.lineNumber.map (· + i))
    (i == 0 && decide (0 < e.firstLineOffset)) line row

theorem body_eq (l : Layout) (e : Excerpt) :
    body l e = (e.logicalLines.mapIdx fun i line =>
      (rowsOn l e i line).flatMap (drawnRow l e i line)).flatten := rfl

/-- Whether a change of highlights keeps what shows of them on a line with `length` characters: the
places where they start and stop there, and their marks. -/
structure DrawnAlike (l : Layout) (length : Nat) (f : Highlight → Highlight) : Prop where
  first : ∀ h, min (f h).offset (length : Int) = min h.offset (length : Int)
  stop : ∀ h, min (f h).stop (length : Int) = min h.stop (length : Int)
  mark : ∀ row lead h, l.mark? length row lead (f h) = l.mark? length row lead h

theorem lineLines_map {l : Layout} {f : Highlight → Highlight} {line : List Char}
    (hf : DrawnAlike l line.length f) (highlights : List Highlight) (number : Option Int)
    (cutStart : Bool) :
    lineLines l (highlights.map f) number cutStart line =
      lineLines l highlights number cutStart line := by
  have hspan := highlightSpan_map f line.length hf.first hf.stop highlights
  have hstrips (row : Row) (lead : Nat) :
      rowStrips l (highlights.map f) line.length row lead =
        rowStrips l highlights line.length row lead := by
    simp only [rowStrips, List.filterMap_map, Function.comp_def, hf.mark]
  unfold lineLines rowLines
  simp only [hspan, hstrips]

/-- What is drawn for a line: its rows, each with the strips under it. -/
def linePart (l : Layout) (e : Excerpt) (k : Nat) : List BlockLine :=
  match e.logicalLines[k]? with
  | none => []
  | some line => (rowsOn l e k line).flatMap (drawnRow l e k line)

/-- What is drawn for a line depends on its text and number, on whether its start is left out, and
on what shows of its highlights. -/
theorem linePart_of_map {l : Layout} {f : Highlight → Highlight} {e e' : Excerpt} {k k' : Nat}
    (hf : ∀ line, e.logicalLines[k]? = some line → DrawnAlike l line.length f)
    (htext : e.logicalLines[k]? = e'.logicalLines[k']?)
    (hnumber : e.lineNumber.map (· + (k : Int)) = e'.lineNumber.map (· + (k' : Int)))
    (hcut : (k == 0 && decide (0 < e.firstLineOffset)) =
      (k' == 0 && decide (0 < e'.firstLineOffset)))
    (hhighlights : (highlightsOn e k).map f = highlightsOn e' k') :
    linePart l e k = linePart l e' k' := by
  unfold linePart
  rw [← htext]
  cases hline : e.logicalLines[k]? with
  | none => rfl
  | some line =>
    change lineLines l (highlightsOn e k) (e.lineNumber.map (· + (k : Int)))
        (k == 0 && decide (0 < e.firstLineOffset)) line =
      lineLines l (highlightsOn e' k') (e'.lineNumber.map (· + (k' : Int)))
        (k' == 0 && decide (0 < e'.firstLineOffset)) line
    rw [← hhighlights, lineLines_map (hf line hline), hnumber, hcut]

theorem flatten_mapIdx {α β : Type} (f : Nat → α → List β) (xs : List α) :
    (xs.mapIdx f).flatten = (List.range xs.length).flatMap fun k => xs[k]?.elim [] (f k) := by
  rw [List.flatMap_def]
  congr 1
  apply List.ext_getElem
  · simp
  · intro k hk _
    have hk : k < xs.length := by simpa using hk
    simp [List.getElem?_eq_getElem hk]

theorem body_eq_flatMap_linePart (l : Layout) (e : Excerpt) :
    body l e = (List.range e.logicalLines.length).flatMap (linePart l e) := by
  rw [body_eq, flatten_mapIdx]
  congr 1
  funext k
  rw [linePart]
  cases e.logicalLines[k]? <;> rfl

/-- Highlights that show the same on each line, and in the place, draw the same. -/
theorem drawnLines_congr {e : Excerpt} {others : List Highlight} (o : Options)
    (note : Option (List Char)) (placement : Placement)
    (hlocator : ({ e with highlights := others } : Excerpt).locator = e.locator)
    (hpart : ∀ l k, linePart l { e with highlights := others } k = linePart l e k) :
    ({ e with highlights := others } : Excerpt).drawnLines note placement o =
      e.drawnLines note placement o := by
  have hbody (l : Layout) : body l { e with highlights := others } = body l e := by
    rw [body_eq_flatMap_linePart, body_eq_flatMap_linePart]
    congr 1
    funext k
    exact hpart l k
  have hlines (l : Layout) : excerptLines l placement.role note { e with highlights := others } =
      excerptLines l placement.role note e := by
    unfold excerptLines
    rw [hlocator, hbody]
    rfl
  unfold Excerpt.drawnLines
  simp only [hlines]
  rfl

theorem exists_of_mem_body {l : Layout} {e : Excerpt} {b : BlockLine} (hb : b ∈ body l e) :
    ∃ i, ∃ hi : i < e.logicalLines.length, ∃ row ∈ rowsOn l e i e.logicalLines[i],
      b ∈ drawnRow l e i e.logicalLines[i] row := by
  rw [body_eq] at hb
  obtain ⟨drawn, hd, hb⟩ := List.mem_flatten.mp hb
  obtain ⟨i, hi, rfl⟩ := List.mem_mapIdx.mp hd
  obtain ⟨row, hrow, hb⟩ := List.mem_flatMap.mp hb
  exact ⟨i, hi, row, hrow, hb⟩

theorem mem_excerptLines_cases {l : Layout} {role : Role} {note : Option (List Char)} {e : Excerpt}
    {b : BlockLine} (hb : b ∈ excerptLines l role note e) :
    e.text.isEmpty = false ∧ b ∈ body l e ∨ b = .opening (e.source.map fun _ => e.locator) ∨
      b = .place e.locator ∨ b = .closing note := by
  unfold excerptLines at hb
  split at hb
  · cases hb
  · split at hb
    · exact .inr (.inr (.inl (List.mem_singleton.mp hb)))
    · rename_i htext
      rcases List.mem_append.mp hb with hb | hb
      · rcases List.mem_append.mp hb with hb | hb
        · split at hb
          · exact .inr (.inl (List.mem_singleton.mp hb))
          · cases hb
        · exact .inl ⟨by simpa using htext, hb⟩
      · split at hb
        · exact .inr (.inr (.inr (List.mem_singleton.mp hb)))
        · cases hb

theorem exists_excerpt_of_mem_sharedLines {l : Layout} {note : Option (List Char)}
    {count index : Nat} {excerpts : List Excerpt} {b : BlockLine}
    (hb : b ∈ sharedLines l note count index excerpts) :
    ∃ e ∈ excerpts, ∃ role, b ∈ excerptLines l role note e := by
  induction excerpts generalizing index with
  | nil => cases hb
  | cons e rest ih =>
    have next {j : Nat} (h : b ∈ sharedLines l note count j rest) :
        ∃ d ∈ e :: rest, ∃ role, b ∈ excerptLines l role note d := by
      obtain ⟨d, hd, hrest⟩ := ih h
      exact ⟨d, by simp [hd], hrest⟩
    unfold sharedLines at hb
    split at hb <;> rcases List.mem_append.mp hb with hb | hb
    · exact ⟨e, by simp, _, hb⟩
    · exact next hb
    · exact ⟨e, by simp, _, hb⟩
    · exact next hb

namespace BlockLine

theorem length_numberColumns {margin : Nat} {number : List Char} (h : number.length ≤ margin) :
    (numberColumns margin number).length = margin := by
  simp only [numberColumns, times, List.length_append, List.length_replicate]
  omega

theorem print_row {l : Layout} {margin : Nat} (hl : l.margin = margin) {number : Option Int}
    (hn : (number.elim [] decimal).length ≤ margin) (cutBefore : Bool) (shown : List Char)
    (cutAfter : Bool) :
    ∃ left right, print l (.row number cutBefore shown cutAfter) = left ++ shown ++ right ∧
      left.length = margin + 3 + (if cutBefore then l.glyphs.ellipsis.length else 0) ∧
      right.length ≤ l.glyphs.ellipsis.length := by
  refine ⟨_, _, rfl, ?_, ?_⟩
  · rw [hl]
    simp only [List.length_append, length_numberColumns hn, List.length_cons, List.length_nil]
    cases cutBefore <;> simp
  · cases cutAfter <;> simp

theorem print_strip_eq (l : Layout) (drawn : List Char) :
    ∃ left, print l (.strip drawn) = left ++ drawn ∧ left.length = l.margin.toNat + 3 :=
  ⟨_, rfl, by simp [numberColumns, times]⟩

theorem print_strip {l : Layout} {margin : Nat} (hl : l.margin = margin) (drawn : List Char) :
    ∃ left, print l (.strip drawn) = left ++ drawn ∧ left.length = margin + 3 := by
  have hstrip := print_strip_eq l drawn
  rwa [hl] at hstrip

end BlockLine

end Frame

end SourceReport

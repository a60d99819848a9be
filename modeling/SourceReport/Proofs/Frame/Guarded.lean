import SourceReport.Proofs.Frame.Packing
import SourceReport.Proofs.Results

namespace SourceReport.Frame.Guarded
open Text

/-- Fills a text into lines, for which there must be a column. -/
def wrap (width : Int) (s : List Char) : Option (List (List Char)) :=
  if width < 1 then none else some (Fill.wrap width.toNat s)

/-- The span of highlights. Its ends are the least and the largest of numbers, so there must be
highlights where these are asked for. -/
def highlightSpan (highlights : List Highlight) (length : Int) : Option (Option (Int × Int)) :=
  if highlights.isEmpty then return none
  else do
    let first ← (highlights.map fun h => min h.offset length).min?
    let last ← (highlights.map fun h => min h.stop length).max?
    return some (first, last)

/-- Rows from `start` on, made in a loop that has no result if it does not end within `rounds`. -/
def rowsFrom (length budget : Nat) : (rounds start : Nat) → Option (List Row)
  | 0, _ => none
  | rounds + 1, start =>
    if start + budget < length then do
      let rest ← rowsFrom length budget rounds (start + budget)
      return ⟨start, start + budget⟩ :: rest
    else return [⟨start, length⟩]

/-- The rows of a line, for which the loop has at most one round for each of its characters. -/
def lineRows (length : Nat) (span : Option (Int × Int)) (budget : Nat) : Option (List Row) :=
  if length ≤ budget then return [⟨0, length⟩]
  else rowsFrom length budget length (firstStart length span)

def endColumn (m : Mark) : Option Nat :=
  if m.comment.isEmpty then return m.column + m.glyph.length
  else do
    let widest ← (m.comment.map List.length).max?
    return max (m.column + m.glyph.length) (m.commentColumn + widest + 1)

def cells (m : Mark) : Option (List Cell) :=
  match m.below with
  | some column =>
    return ⟨0, m.column, m.glyph⟩ :: m.comment.mapIdx fun i line => ⟨i + 1, column, line⟩
  | none =>
    if m.comment.isEmpty then return [⟨0, m.column, m.glyph⟩]
    else do
      let first ← m.comment[0]?
      return ⟨0, m.column, m.glyph ++ ' ' :: first⟩ ::
        m.comment.tail.mapIdx fun i line => ⟨i + 1, m.commentColumn, line⟩

def withComment (l : Layout) (column : Nat) (glyph : List Char) (comment : Option (List Char)) :
    Option Mark :=
  match comment with
  | none => return { column, glyph, comment := [] }
  | some comment =>
    if isBlankText comment then return { column, glyph, comment := [] }
    else
      let text := l.glyphs.display comment
      let room := l.width - (column + glyph.length + 1 : Nat)
      if (leastBudget : Int) ≤ room then do
        return { column, glyph, comment := ← wrap room text }
      else do
        let below := min column (l.width - leastBudget).toNat
        return { column, glyph, comment := ← wrap (max 1 (l.width - below)) text
                 below := some below }

def mark (l : Layout) (length : Nat) (row : Row) (lead : Nat) (h : Highlight) :
    Option (Option Mark) :=
  let first := min h.offset length
  let last := min h.stop length
  let column := lead + (first - row.start).toNat
  if first = last then
    if ((row.start : Int) ≤ first ∧ first < row.stop) ∨ (first = row.stop ∧ row.stop = length) then
      some <$> withComment l column [l.glyphs.point] h.comment
    else return none
  else if (row.stop : Int) ≤ first ∨ last ≤ row.start then return none
  else
    let before := decide (first < row.start)
    let after := decide ((row.stop : Int) < last)
    let size := min last row.stop - max first row.start
    some <$> withComment l (if before then 0 else column)
      (glyphRun l.glyphs before after lead size) (if after then none else h.comment)

def place (m : Mark) : List Strip → Option (List Strip)
  | [] => return [{ marks := [m], cursor := ← endColumn m }]
  | s :: rest =>
    if s.fits m then return { marks := s.marks ++ [m], cursor := ← endColumn m } :: rest
    else return s :: (← place m rest)

def pack (marks : List Mark) : Option (List Strip) :=
  (marks.mergeSort fun a b => decide (a.column ≤ b.column)).foldlM
    (fun strips m => place m strips) []

def put (lines : List (List Char)) (c : Cell) : Option (List (List Char)) := do
  let line ← lines[c.row]?
  return lines.set c.row (Strip.putAt line c)

def stripLines (s : Strip) : Option (List (List Char)) := do
  let cells := (← s.marks.mapM cells).flatten
  let last ← (cells.map (·.row)).max?
  cells.foldlM put (List.replicate (last + 1) [])

def rowLines (l : Layout) (highlights : List Highlight) (number : Option Int) (cutStart : Bool)
    (line : List Char) (row : Row) : Option (List BlockLine) := do
  let cutBefore := decide (0 < row.start) || cutStart
  let lead := if cutBefore then l.glyphs.ellipsis.length else 0
  let shown := l.glyphs.display ((line.take row.stop).drop row.start)
  let marks ← highlights.filterMapM (mark l line.length row lead)
  let drawn ← (← pack marks).mapM stripLines
  return .row number cutBefore shown (decide (row.stop < line.length)) :: drawn.flatten.map .strip

def lineLines (l : Layout) (highlights : List Highlight) (number : Option Int) (cutStart : Bool)
    (line : List Char) : Option (List BlockLine) := do
  let span ← highlightSpan highlights line.length
  let rows ← lineRows line.length span l.budget
  return (← rows.mapM (rowLines l highlights number cutStart line)).flatten

def body (l : Layout) (e : Excerpt) : Option (List BlockLine) := do
  let lines ← e.logicalLines.zipIdx.mapM fun (line, i) =>
    lineLines l (highlightsOn e i) (e.lineNumber.map (· + (i : Int)))
      (i == 0 && decide (0 < e.firstLineOffset)) line
  return lines.flatten

/-- Source, line and column. A column is asked of the first highlight, which must be there. -/
def locator (e : Excerpt) : Option (List Char) :=
  match e.lineNumber with
  | none => return e.source.getD []
  | some n =>
    let numbered := e.source.getD [] ++ ':' :: decimal n
    if e.highlights.length = 1 then do
      let h ← e.highlights[0]?
      return if h.line = 0 then numbered ++ ':' :: decimal (e.firstLineOffset + h.offset + 1)
        else numbered
    else return numbered

def opening (e : Excerpt) : Option BlockLine := do
  return .opening (← e.source.mapM fun _ => locator e)

def excerptLines (l : Layout) (role : Role) (note : Option (List Char)) (e : Excerpt) :
    Option (List BlockLine) :=
  if e.isEmpty then return []
  else if e.text.isEmpty then return [.place (← locator e)]
  else do
    let start ← if role.opens then List.singleton <$> opening e else pure []
    return start ++ (← body l e) ++ if role.closes then [.closing note] else []

def drawnLines (e : Excerpt) (note : Option (List Char)) (placement : Placement)
    (options : Options) : Option (List (List Char)) := do
  let layout := Layout.ofOptions (placement.margin.getD e.margin) options
  return (← excerptLines layout placement.role note e).map (BlockLine.print layout)

theorem wrap_eq_none_iff {width : Int} {s : List Char} : wrap width s = none ↔ width < 1 := by
  unfold wrap
  split <;> simp_all

theorem rowsFrom_eq {length budget rounds start : Nat} (hbudget : 0 < budget) (hpos : 0 < rounds)
    (hrounds : length ≤ start + rounds) :
    rowsFrom length budget rounds start = some (Frame.rowsFrom length budget start) := by
  induction rounds generalizing start with
  | zero => omega
  | succ rounds ih =>
    rw [rowsFrom, Frame.rowsFrom]
    by_cases hlt : start + budget < length
    · -- a round takes at least one character, so enough rounds are left for the others
      rw [if_pos hlt, if_pos ⟨hbudget, hlt⟩, ih (by omega) (by omega)]
      rfl
    · rw [if_neg hlt, if_neg (by omega)]
      rfl

theorem rowsFrom_eq_none {length start : Nat} (h : start < length) (rounds : Nat) :
    rowsFrom length 0 rounds start = none := by
  induction rounds with
  | zero => rfl
  | succ rounds ih =>
    rw [rowsFrom, Nat.add_zero, if_pos h, ih]
    rfl

/-- The loop ends unless rows without characters are asked for before the line's end. -/
theorem exists_rowsFrom_iff {length budget start : Nat} :
    (∃ rounds rows, rowsFrom length budget rounds start = some rows) ↔
      0 < budget ∨ length ≤ start := by
  constructor
  · rintro ⟨rounds, rows, h⟩
    by_contra hn
    obtain ⟨rfl, hlt⟩ : budget = 0 ∧ start < length := by omega
    rw [rowsFrom_eq_none hlt] at h
    cases h
  · rintro (hbudget | hle)
    · exact ⟨length + 1, _, rowsFrom_eq hbudget (by omega) (by omega)⟩
    · exact ⟨1, _, by rw [rowsFrom, if_neg (by omega)]; rfl⟩

theorem wrap_eq {width : Int} (h : 1 ≤ width) (s : List Char) :
    wrap width s = some (Fill.wrap width.toNat s) := by
  rw [wrap, if_neg (by omega)]

/-- A width below one fills as a single column does. -/
theorem wrap_max_one (width : Int) (s : List Char) :
    Fill.wrap (max 1 width).toNat s = Fill.wrap width.toNat s := by
  have hwidth : max 1 (max 1 width).toNat = max 1 width.toNat := by omega
  simp only [Fill.wrap, hwidth]

theorem highlightSpan_eq (highlights : List Highlight) (length : Int) :
    highlightSpan highlights length = some (Frame.highlightSpan highlights length) := by
  cases highlights with
  | nil => rfl
  | cons h highlights => rfl

theorem lineRows_eq (length : Nat) (span : Option (Int × Int)) {budget : Nat} (h : 0 < budget) :
    lineRows length span budget = some (Frame.lineRows length span budget) := by
  rw [lineRows, Frame.lineRows]
  split
  · rfl
  · exact rowsFrom_eq h (by omega) (by omega)

theorem endColumn_eq (m : Mark) : endColumn m = some m.endColumn := by
  rw [endColumn, Mark.endColumn]
  cases m.comment <;> rfl

theorem cells_eq (m : Mark) : cells m = some m.cells := by
  rw [cells, Mark.cells]
  cases m.below <;> cases m.comment <;> rfl

theorem withComment_eq (l : Layout) (column : Nat) (glyph : List Char)
    (comment : Option (List Char)) :
    withComment l column glyph comment = some (l.withComment column glyph comment) := by
  cases comment with
  | none => rfl
  | some comment =>
    rw [withComment, Layout.withComment]
    split
    · rfl
    dsimp only
    split
    · rename_i hroom
      rw [wrap_eq (by unfold leastBudget at hroom; omega)]
      rfl
    · rw [wrap_eq (Int.le_max_left ..), wrap_max_one]
      rfl

theorem mark_eq (l : Layout) (length : Nat) (row : Row) (lead : Nat) (h : Highlight) :
    mark l length row lead h = some (l.mark? length row lead h) := by
  simp only [mark, Layout.mark?, withComment_eq]
  split
  · split <;> rfl
  · split <;> rfl

theorem place_eq (m : Mark) (strips : List Strip) :
    place m strips = some (Strip.place m strips) := by
  induction strips with
  | nil =>
    rw [place, endColumn_eq]
    rfl
  | cons s rest ih =>
    rw [place, Strip.place, endColumn_eq, ih]
    split <;> rfl

theorem pack_eq (marks : List Mark) : pack marks = some (Strip.pack marks) := by
  have hplace : place = fun m strips => pure (Strip.place m strips) := by
    funext m strips
    exact place_eq m strips
  rw [pack, hplace]
  exact List.foldlM_pure

theorem foldlM_put {cells : List Cell} {lines : List (List Char)}
    (h : ∀ c ∈ cells, c.row < lines.length) :
    cells.foldlM put lines = some (lines.mapIdx fun row line =>
      (cells.filter (·.row == row)).foldl Strip.putAt line) := by
  induction cells generalizing lines with
  | nil => exact congrArg some (List.ext_getElem (by simp) (by simp))
  | cons c cells ih =>
    obtain ⟨hc, hcells⟩ := List.forall_mem_cons.mp h
    have hput : put lines c = some (lines.set c.row (Strip.putAt lines[c.row] c)) := by
      rw [put, List.getElem?_eq_getElem hc]
      rfl
    rw [List.foldlM_cons, hput, Option.bind_eq_bind, Option.bind_some,
      ih (by simpa using hcells)]
    congr 1
    -- the first cell is on the line of its own row, and the lines of other rows do not have it
    apply List.ext_getElem
    · simp
    · intro row _ hrow
      by_cases heq : c.row = row
      · simp [heq]
      · simp [heq]

theorem max?_eq_foldl {rows : List Nat} (h : rows ≠ []) : rows.max? = some (rows.foldl max 0) := by
  obtain ⟨row, rest, rfl⟩ := List.exists_cons_of_ne_nil h
  rw [List.max?_cons', List.foldl_cons, Nat.zero_max]

theorem cells_ne_nil {s : Strip} (h : s.marks ≠ []) : s.cells ≠ [] := by
  obtain ⟨m, marks, hmarks⟩ := List.exists_cons_of_ne_nil h
  obtain ⟨beside, rest, hcells, -⟩ := m.cells_eq_cons
  rw [Strip.cells, hmarks, List.flatMap_cons, hcells]
  exact List.cons_ne_nil _ _

/-- A strip with a mark has a last row, and all its cells are put on rows up to that. -/
theorem stripLines_eq {s : Strip} (h : s.marks ≠ []) : stripLines s = some s.lines := by
  have hcells : s.marks.mapM cells = pure (s.marks.map Mark.cells) :=
    mapM_eq_pure_map fun m _ => cells_eq m
  have hlast : (s.cells.map (·.row)).max? = some ((s.cells.map (·.row)).foldl max 0) :=
    max?_eq_foldl fun hnil => cells_ne_nil h (List.map_eq_nil_iff.mp hnil)
  have hrows : ∀ c ∈ s.cells, c.row < (List.replicate s.height ([] : List Char)).length := by
    intro c hc
    rw [List.length_replicate]
    exact Nat.lt_succ_of_le ((le_foldl_max _ 0).2 _ (List.mem_map_of_mem hc))
  rw [stripLines, hcells, pure_bind, ← List.flatMap_def, ← Strip.cells]
  dsimp only
  rw [hlast]
  refine (foldlM_put hrows).trans (congrArg some ?_)
  apply List.ext_getElem
  · simp [Strip.lines]
  · simp [Strip.lines, Strip.drawRow]

theorem marks_ne_nil_of_mem_pack {marks : List Mark} {s : Strip} (hs : s ∈ Strip.pack marks) :
    s.marks ≠ [] := by
  -- the cursor of a strip that is made is the end of its last mark, so it has one
  obtain ⟨placing, -, -, hfit⟩ := Strip.exists_firstFit marks
  have hcursor := hfit.cursor_eq s hs
  rintro hnil
  rw [hnil] at hcursor
  cases hcursor

theorem filterMapM_eq {α β : Type} {f : α → Option (Option β)} {g : α → Option β}
    (h : ∀ x, f x = some (g x)) (xs : List α) : xs.filterMapM f = some (xs.filterMap g) := by
  induction xs with
  | nil => rfl
  | cons x xs ih =>
    rw [List.filterMapM_cons, h, ih, List.filterMap_cons]
    cases hx : g x <;> rfl

theorem rowLines_eq (l : Layout) (highlights : List Highlight) (number : Option Int)
    (cutStart : Bool) (line : List Char) (row : Row) :
    rowLines l highlights number cutStart line row =
      some (Frame.rowLines l highlights number cutStart line row) := by
  have hlines (marks : List Mark) : (Strip.pack marks).mapM stripLines =
      pure ((Strip.pack marks).map Strip.lines) :=
    mapM_eq_pure_map fun s hs => stripLines_eq (marks_ne_nil_of_mem_pack hs)
  rw [rowLines]
  simp only [filterMapM_eq fun h => mark_eq l _ _ _ h, pack_eq, hlines, Option.pure_def,
    Option.bind_eq_bind, Option.bind_some]
  rw [Frame.rowLines, rowStrips, ← List.flatMap_def, List.map_flatMap]

theorem lineLines_eq (l : Layout) (highlights : List Highlight) (number : Option Int)
    (cutStart : Bool) (line : List Char) :
    lineLines l highlights number cutStart line =
      some (Frame.lineLines l highlights number cutStart line) := by
  have hrows (rows : List Row) : rows.mapM (rowLines l highlights number cutStart line) =
      pure (rows.map (Frame.rowLines l highlights number cutStart line)) :=
    mapM_eq_pure_map fun row _ => rowLines_eq l highlights number cutStart line row
  simp only [lineLines, highlightSpan_eq, lineRows_eq _ _ l.budget_pos, hrows,
    Option.bind_eq_bind, Option.bind_some]
  rfl

theorem body_eq (l : Layout) (e : Excerpt) : body l e = some (Frame.body l e) := by
  rw [body, mapM_eq_pure_map fun x _ => lineLines_eq .., Frame.body, List.mapIdx_eq_zipIdx_map]
  rfl

theorem locator_eq (e : Excerpt) : locator e = some e.locator := by
  rw [locator, Excerpt.locator]
  cases e.lineNumber with
  | none => simp
  | some n =>
    match e.highlights with
    | [] => simp
    | [h] => by_cases h0 : h.line = 0 <;> simp [h0]
    | _ :: _ :: _ => simp

theorem opening_eq (e : Excerpt) :
    opening e = some (.opening (e.source.map fun _ => e.locator)) := by
  rw [opening]
  cases e.source with
  | none => rfl
  | some source =>
    rw [Option.mapM_some, locator_eq]
    rfl

theorem excerptLines_eq (l : Layout) (role : Role) (note : Option (List Char)) (e : Excerpt) :
    excerptLines l role note e = some (Frame.excerptLines l role note e) := by
  rw [excerptLines, Frame.excerptLines, locator_eq, opening_eq, body_eq]
  split
  · rfl
  · split
    · rfl
    · cases role.opens <;> rfl

/-- Drawing with every step checked has a result, which is what is drawn. So no text is filled into
less than a column, no largest or least number is asked for where there is none, nothing is looked
up where it is missing, and the loop of the rows ends, whatever the numbers of an excerpt and its
highlights are and however wide the margin is. -/
theorem drawnLines_eq_some (e : Excerpt) (note : Option (List Char)) (placement : Placement)
    (options : Options) :
    drawnLines e note placement options = some (e.drawnLines note placement options) := by
  rw [drawnLines, excerptLines_eq]
  rfl

end SourceReport.Frame.Guarded

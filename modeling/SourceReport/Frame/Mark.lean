import SourceReport.Frame.Row
import SourceReport.Options
import SourceReport.Text.Fill

namespace SourceReport.Frame
open Text

structure Layout where
  margin : Int
  maxColumns : Nat
  glyphs : Glyphs

namespace Layout

def ofOptions (margin : Int) (o : Options) : Layout :=
  { margin, maxColumns := o.maxColumns, glyphs := o.glyphs }

/-- The columns right of the frame. Line numbers may leave none. -/
def width (l : Layout) : Int := l.maxColumns - l.margin - 3

/-- The most characters of a line in one row, so that an ellipsis fits on either side. -/
def budget (l : Layout) : Nat :=
  max leastBudget (l.width - 2 * (l.glyphs.ellipsis.length : Int)).toNat

theorem leastBudget_le_budget (l : Layout) : leastBudget ≤ l.budget := Nat.le_max_left _ _

end Layout

/-- A piece of text at a column of a strip's row. -/
structure Cell where
  row : Nat
  column : Nat
  text : List Char

structure Mark where
  column : Nat
  glyph : List Char
  comment : List (List Char)
  /-- Where the comment stands if it starts on the next row of the strip. -/
  below : Option Nat := none
  deriving DecidableEq

namespace Mark

def commentColumn (m : Mark) : Nat := m.below.getD (m.column + m.glyph.length + 1)

def startColumn (m : Mark) : Nat := min m.column m.commentColumn

/-- The column from which another mark may follow; a comment keeps one column free after it. -/
def endColumn (m : Mark) : Nat :=
  let glyphEnd := m.column + m.glyph.length
  match (m.comment.map List.length).max? with
  | none => glyphEnd
  | some widest => max glyphEnd (m.commentColumn + widest + 1)

/-- The pieces of the mark. The glyphs are on row zero. -/
def cells (m : Mark) : List Cell :=
  match m.below, m.comment with
  | some column, comment =>
    ⟨0, m.column, m.glyph⟩ :: comment.mapIdx fun i line => ⟨i + 1, column, line⟩
  | none, [] => [⟨0, m.column, m.glyph⟩]
  | none, line :: rest =>
    ⟨0, m.column, m.glyph ++ ' ' :: line⟩ ::
      rest.mapIdx fun i line => ⟨i + 1, m.commentColumn, line⟩

end Mark

/-- A glyph so many times, and not at all for negative numbers. -/
def times (n : Int) (c : Char) : List Char := List.replicate n.toNat c

/-- The glyphs under `size` characters. A mark that starts on an earlier row goes under the
ellipsis too and has no left end; one that goes on has no right end. -/
def glyphRun (g : Glyphs) (before after : Bool) (lead : Nat) (size : Int) : List Char :=
  if before then
    if after then times lead g.fill ++ times size g.fill
    else times lead g.fill ++ times (size - 1) g.fill ++ [g.right]
  else if after then g.left :: times (size - 1) g.fill
  else if size = 1 then [g.single]
  else g.left :: times (size - 2) g.fill ++ [g.right]

namespace Layout

/-- The mark that draws `glyph` at `column`, with a comment that keeps to the columns there are.
The comment follows the glyph if enough columns are left, else it stands on the next rows, moved
left as far as it needs. A blank comment is not drawn. -/
def withComment (l : Layout) (column : Nat) (glyph : List Char) (comment : Option (List Char)) :
    Mark :=
  match comment with
  | none => { column, glyph, comment := [] }
  | some comment =>
    if isBlankText comment then { column, glyph, comment := [] }
    else
      let text := l.glyphs.display comment
      let room := l.width - (column + glyph.length + 1 : Nat)
      if (leastBudget : Int) ≤ room then
        { column, glyph, comment := Fill.wrap room.toNat text }
      else
        let below := min column (l.width - leastBudget).toNat
        { column, glyph, comment := Fill.wrap (l.width - below).toNat text, below := some below }

/-- The mark of a highlight under a row of a line with `length` characters, if the row shows any
of it; `lead` columns of the row are taken by an ellipsis. The comment goes with the last row of
the highlight. -/
def mark? (l : Layout) (length : Nat) (row : Row) (lead : Nat) (h : Highlight) : Option Mark :=
  let first := min h.offset length
  let last := min h.stop length
  let column := lead + (first - row.start).toNat
  if first = last then
    if ((row.start : Int) ≤ first ∧ first < row.stop) ∨ (first = row.stop ∧ row.stop = length) then
      some (l.withComment column [l.glyphs.point] h.comment)
    else none
  else if (row.stop : Int) ≤ first ∨ last ≤ row.start then none
  else
    let before := decide (first < row.start)
    let after := decide ((row.stop : Int) < last)
    let size := min last row.stop - max first row.start
    some (l.withComment (if before then 0 else column) (glyphRun l.glyphs before after lead size)
      (if after then none else h.comment))

end Layout

end SourceReport.Frame

import SourceReport.Frame.Mark

namespace SourceReport.Frame

/-- Marks on one strip, in the order they were set, and the column from which more may follow. -/
structure Strip where
  marks : List Mark
  cursor : Nat

namespace Strip

def single (m : Mark) : Strip := { marks := [m], cursor := m.endColumn }

def fits (s : Strip) (m : Mark) : Bool := decide (s.cursor ≤ m.startColumn)

def add (s : Strip) (m : Mark) : Strip := { marks := s.marks ++ [m], cursor := m.endColumn }

/-- Sets a mark on the first strip where it fits, or on a new one. -/
def place (m : Mark) : List Strip → List Strip
  | [] => [single m]
  | s :: rest => if s.fits m then s.add m :: rest else s :: place m rest

def pack (marks : List Mark) : List Strip :=
  (marks.mergeSort fun a b => decide (a.column ≤ b.column)).foldl
    (fun strips m => place m strips) []

/-- Appends a text at its column, after as many spaces as that needs. -/
def putAt (line : List Char) (c : Cell) : List Char :=
  line ++ List.replicate (c.column - line.length) ' ' ++ c.text

def drawRow (cells : List Cell) : List Char := cells.foldl putAt []

def cells (s : Strip) : List Cell := s.marks.flatMap Mark.cells

def height (s : Strip) : Nat := (s.cells.map (·.row)).foldl max 0 + 1

def lines (s : Strip) : List (List Char) :=
  (List.range s.height).map fun row => drawRow (s.cells.filter (·.row == row))

theorem length_lines (s : Strip) : s.lines.length = s.height := by simp [lines]

end Strip

end SourceReport.Frame

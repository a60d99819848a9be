import SourceReport.Text.Slice

namespace SourceReport
open Text

structure Position where
  buffer : List Char
  offset : Int := 0
  line : Int := 0
  column : Int := 0

namespace Position

inductive Error where
  | beyondEnd

def Error.message : Error → List Char
  | beyondEnd => "invalid index".toList

/-- The place at an offset. The line counts the line feeds before it, the column the characters
after the last of them. -/
def atOffset (buffer : List Char) (offset : Int) : Position :=
  let passed := slice buffer 0 offset
  { buffer, offset, line := passed.count '\n', column := offset - lastLineStart passed }

def at? (buffer : List Char) (offset : Int) : Except Error Position :=
  if (buffer.length : Int) < offset then .error .beyondEnd else .ok (atOffset buffer offset)

def remaining (p : Position) : List Char := sliceFrom p.buffer p.offset

end Position

end SourceReport

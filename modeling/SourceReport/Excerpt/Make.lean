import SourceReport.Excerpt
import SourceReport.Position

namespace SourceReport.Excerpt
open Text

def empty : Excerpt := {}

def plain (text : Passage) : Excerpt := { text }

def fullLine (lineIndex : Int) (text : Passage) : Excerpt :=
  { lineNumber := some (lineIndex + 1), text }

def onLine (lineIndex : Option Int) (text : Passage) (offset length : Int)
    (comment : Option (List Char)) : Excerpt :=
  { lineNumber := lineIndex.map (· + 1), text
    highlights := [{ line := 0, offset, length, comment }] }

/-- A line with a range highlighted. A missing end of the range is the line's end; with both
missing the line is shown as a whole. -/
def lineRange (lineIndex : Option Int) (text : Passage) (start stop : Option Int)
    (comment : Option (List Char)) (inclusive : Bool) : Excerpt :=
  match start, stop, lineIndex with
  | none, none, none => plain text
  | none, none, some index => fullLine index text
  | start, stop, lineIndex =>
    let (offset, length) := normalizeBounds start stop inclusive (some text.length)
    onLine lineIndex text offset length comment

inductive Error where
  | noSuchLine (line : Int) (count : Nat)

def Error.message : Error → List Char
  | noSuchLine line count =>
    "highlight on line ".toList ++ decimal line ++ ", but the context has ".toList ++
      decimal count ++ " line(s)".toList

/-- A stretch of a line to highlight; without bounds it is the whole line. -/
structure Stretch where
  line : Int
  bounds : Option Bounds
  comment : Option (List Char)

def Stretch.highlight? (lengths : List Nat) (s : Stretch) : Except Error Highlight :=
  if s.line < 0 then .error (.noSuchLine s.line lengths.length)
  else match lengths[s.line.toNat]? with
    | none => .error (.noSuchLine s.line lengths.length)
    | some (n : Nat) =>
      let (offset, length) := match s.bounds with
        | none => (0, (n : Int))
        | some b => normalizeBounds b.start? b.stop? false (some (n : Int))
      .ok { line := s.line, offset, length, comment := s.comment }

def multiple (lineIndex : Option Int) (text : Passage) (stretches : List Stretch) :
    Except Error Excerpt := do
  let lengths := (splitLines text.content).map List.length
  let highlights ← stretches.mapM (Stretch.highlight? lengths)
  return { lineNumber := lineIndex.map (· + 1), text, highlights := Highlight.sort highlights }

/-- The rest of a line from a position on, with its first three characters highlighted. -/
def atPosition (p : Position) : Excerpt :=
  { lineNumber := some (p.line + 1), firstLineOffset := p.column
    text := .borrowed (.clamp p.buffer p.offset (some (lineEnd p.buffer p.offset)))
    highlights := [{ line := 0, offset := 0, length := 3 }] }

/-- The offset after the next `count` line feeds, if there are as many. -/
def skipLines (buffer : List Char) (start : Int) : Nat → Option Int
  | 0 => some start
  | count + 1 =>
    (lineFeedFrom? buffer start).bind fun found => skipLines buffer (found + 1) count

/-- Where a range ends that starts at `start`: on the line of `stop`, at its column or at the end
of that line, whichever comes first. -/
def rangeEnd (start stop : Position) : Int :=
  match skipLines start.buffer start.offset (stop.line - start.line).toNat with
  | none => start.buffer.length
  | some lineStart => min (lineStart + stop.column) (lineEnd start.buffer lineStart)

/-- The text between two positions of one buffer. It is highlighted if it lies on one line. -/
def between (start stop : Position) : Excerpt :=
  let lineNumber := some (start.line + 1)
  if start.line = stop.line then
    let last := start.offset + max 0 (stop.column - start.column)
    let window := Window.clamp start.buffer start.offset (some last)
    { lineNumber, firstLineOffset := start.column, text := .borrowed window
      highlights := [{ line := 0, offset := 0, length := window.length }] }
  else
    { lineNumber, firstLineOffset := start.column
      text := .borrowed (.clamp start.buffer start.offset (some (rangeEnd start stop))) }

/-- A match in a source: its whole line if it lies on one line, else the matched text. -/
def ofMatch (source : List Char) (start stop : Int) (path : List Char)
    (comment : Option (List Char)) : Excerpt :=
  let first := Position.atOffset source start
  let last := Position.atOffset source stop
  if first.line ≠ last.line then (between first last).withSource path
  else
    let lineStart := start - first.column
    let line := Passage.borrowed (.clamp source lineStart (some (lineEnd source lineStart)))
    (onLine (some first.line) line first.column (stop - start) comment).withSource path

def ofMatch? (source : List Char) (start stop : Int) (path : List Char)
    (comment : Option (List Char)) : Except Position.Error Excerpt := do
  let _ ← Position.at? source start
  let _ ← Position.at? source stop
  return ofMatch source start stop path comment

end SourceReport.Excerpt

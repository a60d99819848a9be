import SourceReport.Frame.Strip
import SourceReport.Excerpt

namespace SourceReport.Frame
open Text

inductive BlockLine where
  | opening (locator : Option (List Char))
  /-- A row of text with its line number; characters may be left out on either side. -/
  | row (number : Option Int) (cutBefore : Bool) (shown : List Char) (cutAfter : Bool)
  | strip (drawn : List Char)
  | closing (note : Option (List Char))
  | place (locator : List Char)

namespace BlockLine

def numberColumns (margin : Int) (number : List Char) : List Char :=
  number ++ times (margin - number.length) ' '

def print (l : Layout) : BlockLine → List Char
  | opening none => numberColumns l.margin [] ++ [' ', l.glyphs.opening]
  | opening (some locator) =>
    numberColumns l.margin [] ++ ' ' :: l.glyphs.openingSource ++ locator ++ [']']
  | row number cutBefore shown cutAfter =>
    numberColumns l.margin (number.elim [] decimal) ++ [' ', l.glyphs.row, ' '] ++
      (if cutBefore then l.glyphs.ellipsis else []) ++ shown ++
      (if cutAfter then l.glyphs.ellipsis else [])
  | strip drawn => numberColumns l.margin [] ++ [' ', l.glyphs.strip, ' '] ++ drawn
  | closing none => numberColumns l.margin [] ++ [' ', l.glyphs.closing]
  | closing (some note) =>
    numberColumns l.margin [] ++ ' ' :: l.glyphs.closingNote ++ note ++ [']']
  | place locator => '[' :: locator ++ [']']

end BlockLine

/-- Where an excerpt stands among those that share its frame. -/
inductive Role where
  | solo
  | first
  | middle
  | last
  deriving DecidableEq

namespace Role

def opens (r : Role) : Bool := r == solo || r == first

def closes (r : Role) : Bool := r == solo || r == last

def ofIndex (index count : Int) : Role :=
  if count ≤ 1 then solo
  else if index = 0 then first
  else if index = count - 1 then last
  else middle

end Role

/-- A role with the margin of the frame; without one the excerpt's own margin is taken. -/
structure Placement where
  role : Role := .solo
  margin : Option Int := none

def highlightsOn (e : Excerpt) (line : Nat) : List Highlight :=
  (e.highlights.filter fun h => h.line == (line : Int)).mergeSort
    fun a b => decide (a.offset ≤ b.offset)

def rowStrips (l : Layout) (highlights : List Highlight) (length : Nat) (row : Row) (lead : Nat) :
    List Strip :=
  Strip.pack (highlights.filterMap (l.mark? length row lead))

/-- A row of a line and the strips under it; `cutStart` says that something is left out before
the line. -/
def rowLines (l : Layout) (highlights : List Highlight) (number : Option Int) (cutStart : Bool)
    (line : List Char) (row : Row) : List BlockLine :=
  let cutBefore := decide (0 < row.start) || cutStart
  let lead := if cutBefore then l.glyphs.ellipsis.length else 0
  let shown := l.glyphs.display ((line.take row.stop).drop row.start)
  .row number cutBefore shown (decide (row.stop < line.length)) ::
    (rowStrips l highlights line.length row lead).flatMap fun s => s.lines.map .strip

def lineLines (l : Layout) (highlights : List Highlight) (number : Option Int) (cutStart : Bool)
    (line : List Char) : List BlockLine :=
  (lineRows line.length (highlightSpan highlights line.length) l.budget).flatMap
    (rowLines l highlights number cutStart line)

def body (l : Layout) (e : Excerpt) : List BlockLine :=
  (e.logicalLines.mapIdx fun i line =>
    lineLines l (highlightsOn e i) (e.lineNumber.map (· + i))
      (i == 0 && decide (0 < e.firstLineOffset)) line).flatten

def excerptLines (l : Layout) (role : Role) (note : Option (List Char)) (e : Excerpt) :
    List BlockLine :=
  if e.isEmpty then []
  else if e.text.isEmpty then [.place e.locator]
  else
    (if role.opens then [.opening (e.source.map fun _ => e.locator)] else []) ++ body l e ++
      (if role.closes then [.closing note] else [])

/-- The lines of excerpts that share a frame, the first of them standing at `index` among `count`
excerpts with text. -/
def sharedLines (l : Layout) (note : Option (List Char)) (count : Nat) :
    (index : Nat) → List Excerpt → List BlockLine
  | _, [] => []
  | index, e :: rest =>
    if e.text.isEmpty then excerptLines l .middle note e ++ sharedLines l note count index rest
    else excerptLines l (.ofIndex index count) note e ++ sharedLines l note count (index + 1) rest

def framed (excerpts : List Excerpt) : List Excerpt := excerpts.filter fun e => !e.text.isEmpty

def sharedMargin (excerpts : List Excerpt) : Nat :=
  ((framed excerpts).map Excerpt.margin).foldl max 0

def sharedLayout (options : Options) (excerpts : List Excerpt) : Layout :=
  .ofOptions (sharedMargin excerpts) options

def blockLines (options : Options) (note : Option (List Char)) (excerpts : List Excerpt) :
    List BlockLine :=
  sharedLines (sharedLayout options excerpts) note (framed excerpts).length 0 excerpts

end SourceReport.Frame

namespace SourceReport
open SourceReport.Frame

def Excerpt.drawnLines (e : Excerpt) (note : Option (List Char)) (placement : Placement)
    (options : Options) : List (List Char) :=
  let layout := Layout.ofOptions (placement.margin.getD e.margin) options
  (excerptLines layout placement.role note e).map (BlockLine.print layout)

def Excerpt.render (e : Excerpt) (note : Option (List Char)) (placement : Placement)
    (options : Options) : List Char :=
  Text.joinLines (e.drawnLines note placement options)

def Excerpt.sharedDrawnLines (excerpts : List Excerpt) (note : Option (List Char))
    (options : Options) : List (List Char) :=
  (blockLines options note excerpts).map (BlockLine.print (sharedLayout options excerpts))

def Excerpt.renderShared (excerpts : List Excerpt) (note : Option (List Char))
    (options : Options) : List Char :=
  Text.joinLines (sharedDrawnLines excerpts note options)

end SourceReport

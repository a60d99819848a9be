import SourceReport.Excerpt
import SourceReport.Frame.Row
import SourceReport.Markup
import SourceReport.Options

namespace SourceReport.Markup
open Text SourceReport.Frame

/-- A highlight held inside a line: the offsets of its first character and after its last. -/
structure Clipped where
  first : Int
  last : Int
  highlight : Highlight

def clip (length : Nat) (h : Highlight) : Clipped :=
  { first := min h.offset length, last := min h.stop length, highlight := h }

def pointNode (h : Highlight) : Node :=
  .element .span [(.class_, "highlight point".toList), (.title, h.comment.getD [])] []

def pointsAt (clipped : List Clipped) (index : Int) : List Node :=
  (clipped.filter fun c => c.first == c.last && c.last == index).map (pointNode ·.highlight)

def coverOf (clipped : List Clipped) (index : Int) : List Highlight :=
  (clipped.filter fun c => decide (c.first ≤ index) && decide (index < c.last)).map (·.highlight)

def coverTitle (cover : List Highlight) : List Char :=
  List.intercalate "; ".toList ((cover.filterMap (·.comment)).filter (!·.isEmpty))

/-- Nodes under the highlights that cover them; nodes that none covers stand free. -/
def wrapRun (cover : List Highlight) (nodes : List Node) : List Node :=
  if cover.isEmpty then nodes
  else [.element .span [(.class_, "highlight".toList), (.title, coverTitle cover)] nodes]

/-- The nodes of the characters from `index` on, as what goes into the run of `cover` that is
still open and what comes after that run. Points at the end of a row are shown only where the line
ends too. -/
def runNodes (clipped : List Clipped) (endsLine : Bool) (cover : List Highlight) (index : Nat) :
    List Char → List Node × List Node
  | [] =>
    let points := if endsLine then pointsAt clipped index else []
    let now := coverOf clipped index
    if now = cover then (points, []) else (points, wrapRun now [])
  | c :: rest =>
    let points := pointsAt clipped index
    let now := coverOf clipped index
    let (inside, after) := runNodes clipped endsLine now (index + 1) rest
    if now = cover then (points ++ .text [c] :: inside, after)
    else (points, wrapRun now (.text [c] :: inside) ++ after)

def rowNodes (line : List Char) (row : Row) (highlights : List Highlight) : List Node :=
  let clipped := highlights.map (clip line.length)
  let shown := (line.take row.stop).drop row.start
  let (inside, after) := runNodes clipped (row.stop == line.length) [] row.start shown
  inside ++ after

def ellipsisNode (isCut : Bool) : List Node := if isCut then [.text ['…']] else []

def numberedRow (highlights : List Highlight) (number : Option Int) (cutStart : Bool)
    (line : List Char) (row : Row) : List Node :=
  [.classed .span "line-number".toList [.text (number.elim [] decimal)],
    .classed .span "line".toList
      (ellipsisNode (decide (0 < row.start) || cutStart) ++ rowNodes line row highlights ++
        ellipsisNode (decide (row.stop < line.length)))]

def lineNodes (columns : Nat) (highlights : List Highlight) (number : Option Int)
    (cutStart : Bool) (line : List Char) : List Node :=
  (lineRows line.length (highlightSpan highlights line.length) columns).flatMap
    (numberedRow highlights number cutStart line)

def bodyNodes (columns : Nat) (e : Excerpt) : List Node :=
  (e.logicalLines.mapIdx fun i line =>
    lineNodes columns (e.highlights.filter fun h => h.line == (i : Int))
      (e.lineNumber.map (· + i)) (i == 0 && decide (0 < e.firstLineOffset)) line).flatten

def excerptNodes (options : Options) (e : Excerpt) : List Node :=
  if e.isEmpty then []
  else
    let source := if e.source.isSome || e.text.isEmpty then
      [.classed .span "source".toList [.text e.locator]] else []
    [.classed .div "context".toList (source ++ bodyNodes options.htmlColumns e)]

end SourceReport.Markup

namespace SourceReport

def Excerpt.toHtml (e : Excerpt) (options : Options) : List Char :=
  Markup.printAll (Markup.excerptNodes options e)

end SourceReport

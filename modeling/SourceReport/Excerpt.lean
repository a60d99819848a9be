import SourceReport.Highlight.Shorthand
import SourceReport.Text.Lines
import SourceReport.Text.Passage

namespace SourceReport
open Text

/-- A located slice of text. -/
structure Excerpt where
  source : Option (List Char) := none
  /-- Number of the first line, counted from one. -/
  lineNumber : Option Int := none
  /-- Characters left out before the first line. -/
  firstLineOffset : Int := 0
  text : Passage := .owned []
  highlights : List Highlight := []

namespace Excerpt

instance : Inhabited Excerpt := ⟨{}⟩

/-- Excerpts are equal when they hold the same characters, wherever they keep them. -/
instance : BEq Excerpt where
  beq a b :=
    a.source == b.source && a.lineNumber == b.lineNumber &&
      a.firstLineOffset == b.firstLineOffset && a.text == b.text && a.highlights == b.highlights

def toOwned (e : Excerpt) : Excerpt := { e with text := e.text.toOwned }

def isEmpty (e : Excerpt) : Bool := e.text.isEmpty && e.source.isNone && e.lineNumber.isNone

def logicalLines (e : Excerpt) : List (List Char) := splitLines e.text.content

def lineIndex (e : Excerpt) : Option Int := e.lineNumber.map (· - 1)

def margin (e : Excerpt) : Nat :=
  match e.lineNumber with
  | none => 0
  | some n =>
    let count := max 1 e.logicalLines.length
    (decimal (n + count - 1)).length

/-- Source, line and column, each as far as it is known. The column is that of the only highlight,
if it stands on the first line. -/
def locator (e : Excerpt) : List Char :=
  e.source.getD [] ++
    match e.lineNumber with
    | none => []
    | some n =>
      ':' :: decimal n ++
        match e.highlights with
        | [h] => if h.line = 0 then ':' :: decimal (e.firstLineOffset + h.offset + 1) else []
        | _ => []

def withSource (e : Excerpt) (source : List Char) : Excerpt := { e with source := some source }

def withLineIndex (e : Excerpt) (index : Int) : Excerpt :=
  { e with lineNumber := some (index + 1) }

/-- Sets the text together with the number of characters left out before it. -/
def withText (e : Excerpt) (firstLineOffset : Int) (text : Passage) : Excerpt :=
  { e with firstLineOffset, text }

/-- Adds a highlight, after those that stand at the same place. -/
def addHighlight (e : Excerpt) (h : Highlight) : Excerpt :=
  { e with highlights := Highlight.sort (e.highlights ++ [h]) }

theorem isEmpty_eq_false_of_text {e : Excerpt} (h : e.text.isEmpty = false) :
    e.isEmpty = false := by
  simp [isEmpty, h]

theorem logicalLines_eq_nil {e : Excerpt} : e.logicalLines = [] ↔ e.text.isEmpty = true := by
  rw [logicalLines, splitLines_eq_nil, Passage.isEmpty, beq_iff_eq, ← Passage.length_content,
    List.length_eq_zero_iff]

@[simp] theorem isEmpty_toOwned (e : Excerpt) : e.toOwned.isEmpty = e.isEmpty := by
  simp [isEmpty, toOwned, Passage.isEmpty, ← Passage.length_content]

@[simp] theorem logicalLines_toOwned (e : Excerpt) : e.toOwned.logicalLines = e.logicalLines := rfl

@[simp] theorem margin_toOwned (e : Excerpt) : e.toOwned.margin = e.margin := rfl

@[simp] theorem locator_toOwned (e : Excerpt) : e.toOwned.locator = e.locator := rfl

end Excerpt

end SourceReport

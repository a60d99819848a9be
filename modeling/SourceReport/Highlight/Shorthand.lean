import SourceReport.Highlight
import SourceReport.Text.Quoted

namespace SourceReport
open Text

inductive Shorthand.Item where
  | nothing
  | number (value : Int)
  | text (value : List Char)
  | bounds (value : Bounds)

/-- A value where a highlight may be written. -/
inductive Shorthand where
  | highlight (value : Highlight)
  | bare (item : Shorthand.Item)
  | tuple (items : List Shorthand.Item)

namespace Shorthand

def Item.describe : Item → List Char
  | nothing => "None".toList
  | number n => decimal n
  | text s => quoted s
  | bounds b => b.describe

/-- Items in words. A single one has a comma after it. -/
def describeTuple (items : List Item) : List Char :=
  let inside := List.intercalate [',', ' '] (items.map Item.describe)
  '(' :: inside ++ (if items.length = 1 then [','] else []) ++ [')']

def Item.asComment? : Item → Option (Option (List Char))
  | nothing => some none
  | text s => some (some s)
  | _ => none

/-- What a short form says: a highlight with any item in the place of its comment. -/
structure Draft where
  line : Int
  offset : Int
  length : Int
  comment : Item := .nothing

end Shorthand

namespace Highlight

inductive Error where
  | notContiguous (bounds : Bounds)
  | noHighlight (described : List Char)

def Error.message : Error → List Char
  | notContiguous bounds => "highlight range must be contiguous: ".toList ++ bounds.describe
  | noHighlight described => "cannot make a highlight from ".toList ++ described

/-- The highlight of a stretch, with the cause named where there is none. -/
def bounded (line : Int) (bounds : Bounds) (comment : Option (List Char)) :
    Except Error Highlight :=
  (ofBounds line bounds comment).mapError .notContiguous

end Highlight

namespace Shorthand

namespace Draft

def stop (d : Draft) : Int := d.offset + d.length

def ofHighlight (h : Highlight) (comment : Item) : Draft :=
  { line := h.line, offset := h.offset, length := h.length, comment }

/-- The highlight, if the item in the comment's place is a text or nothing. -/
def highlight? (d : Draft) : Option Highlight :=
  d.comment.asComment?.map fun comment =>
    { line := d.line, offset := d.offset, length := d.length, comment }

end Draft

def draftBounds (line : Int) (bounds : Bounds) (comment : Item) : Except Highlight.Error Draft :=
  (Highlight.bounded line bounds none).map (Draft.ofHighlight · comment)

def draftItems : List Item → Except Highlight.Error Draft
  | [.number line, .bounds b] => draftBounds line b .nothing
  | [.number line, .bounds b, comment] => draftBounds line b comment
  | [.number line, .number offset, .number length] => .ok { line, offset, length }
  | [.number line, .number offset, .number length, comment] =>
    .ok { line, offset, length, comment }
  | items => .error (.noHighlight (describeTuple items))

def draft : Shorthand → Except Highlight.Error Draft
  | .highlight h => .ok (.ofHighlight h (h.comment.elim .nothing .text))
  | .bare item => .error (.noHighlight item.describe)
  | .tuple items => draftItems items

def describe : Shorthand → List Char
  | .highlight h => describeTuple [.number h.line, .number h.offset, .number h.length]
  | .bare item => item.describe
  | .tuple items => describeTuple items

end Shorthand

def Highlight.ofShorthand (s : Shorthand) : Except Highlight.Error Highlight := do
  match (← s.draft).highlight? with
  | some h => return h
  | none => throw (.noHighlight s.describe)

end SourceReport

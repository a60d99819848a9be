import SourceReport.Text.Decimal

namespace SourceReport
open Text

/-- A highlight on one line of an excerpt. A length of zero marks a point. -/
structure Highlight where
  line : Int
  offset : Int
  length : Int
  comment : Option (List Char) := none
  deriving DecidableEq

/-- The length that stands for a highlight without an end. -/
def unbounded : Int := 9223372036854775807

/-- Offset and length of the range from `start` up to `stop`, which belongs to it if it is
`inclusive`. A missing start is the line's start, and a missing stop its end, or no end where the
line's length is not known. A stop before the start leaves nothing. -/
def normalizeBounds (start stop : Option Int) (inclusive : Bool) (lineLength : Option Int) :
    Int × Int :=
  let offset := match start with
    | none => 0
    | some start => max 0 start
  match stop with
  | none =>
    match lineLength with
    | none => (offset, unbounded)
    | some length => (offset, max 0 (length - offset))
  | some stop =>
    let last := if inclusive then stop + 1 else stop
    (offset, min unbounded (max 0 (last - offset)))

inductive Bounds where
  /-- Either end may be open. The step is not looked at. -/
  | slice (start stop step : Option Int)
  | range (start stop step : Int)
  deriving DecidableEq

namespace Bounds

def start? : Bounds → Option Int
  | slice start _ _ => start
  | range start _ _ => some start

def stop? : Bounds → Option Int
  | slice _ stop _ => stop
  | range _ stop _ => some stop

def describeEnd : Option Int → List Char
  | none => "None".toList
  | some n => decimal n

/-- The bounds in words. A step of one is left out of a range. -/
def describe : Bounds → List Char
  | slice start stop step =>
    "slice(".toList ++ describeEnd start ++ ", ".toList ++ describeEnd stop ++ ", ".toList ++
      describeEnd step ++ [')']
  | range start stop step =>
    "range(".toList ++ decimal start ++ ", ".toList ++ decimal stop ++
      (if step = 1 then [] else ", ".toList ++ decimal step) ++ [')']

def skips : Bounds → Bool
  | slice _ _ _ => false
  | range _ _ step => step ≠ 1

end Bounds

namespace Highlight

def stop (h : Highlight) : Int := h.offset + h.length

/-- The highlight of a range of characters on a line whose length is not known. -/
def ofRange (line : Int) (start stop : Option Int) (comment : Option (List Char))
    (inclusive : Bool) : Highlight :=
  let (offset, length) := normalizeBounds start stop inclusive none
  { line, offset, length, comment }

/-- The highlight of a stretch, unless the stretch skips characters. -/
def ofBounds (line : Int) (bounds : Bounds) (comment : Option (List Char)) :
    Except Bounds Highlight :=
  if bounds.skips then .error bounds
  else .ok (ofRange line bounds.start? bounds.stop? comment false)

/-- The order in which an excerpt keeps its highlights: by line, then by offset. -/
def before (a b : Highlight) : Bool :=
  decide (a.line < b.line) || (decide (a.line = b.line) && decide (a.offset ≤ b.offset))

/-- Highlights in order. Those at the same place keep the order they came in. -/
def sort (highlights : List Highlight) : List Highlight := highlights.mergeSort before

theorem before_total (a b : Highlight) : (before a b || before b a) = true := by
  simp only [before, Bool.or_eq_true, Bool.and_eq_true, decide_eq_true_eq]
  omega

theorem before_trans (a b c : Highlight) (hab : before a b = true) (hbc : before b c = true) :
    before a c = true := by
  simp only [before, Bool.or_eq_true, Bool.and_eq_true, decide_eq_true_eq] at *
  omega

end Highlight

end SourceReport

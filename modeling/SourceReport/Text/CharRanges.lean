namespace SourceReport.Text

/-- Ascending, disjoint ranges, both ends included. -/
abbrev CharRanges := List (Nat × Nat)

/-- Whether a code point lies in one of the ranges; the search stops at the first range above it. -/
def CharRanges.containsCode : CharRanges → Nat → Bool
  | [], _ => false
  | (first, last) :: rest, n =>
    if n < first then false else if n ≤ last then true else containsCode rest n

def CharRanges.contains (ranges : CharRanges) (c : Char) : Bool := ranges.containsCode c.toNat

end SourceReport.Text

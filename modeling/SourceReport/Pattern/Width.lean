import SourceReport.Pattern

namespace SourceReport.Pattern

namespace Bounds

def exactly (n : Nat) : Bounds := { least := n, most := some n }

def add (a b : Bounds) : Bounds :=
  { least := a.least + b.least
    most := a.most.bind fun m => b.most.map (m + ·) }

/-- Bounds of a product. Nothing repeated without limit, and anything repeated no times, makes
nothing. -/
def mul (a b : Bounds) : Bounds :=
  { least := a.least * b.least
    most :=
      if a.most = some 0 ∨ b.most = some 0 then some 0
      else a.most.bind fun m => b.most.map (m * ·) }

def join (a b : Bounds) : Bounds :=
  { least := min a.least b.least
    most := a.most.bind fun m => b.most.map (max m ·) }

end Bounds

/-- How many characters a pattern may match, given how many its groups may. -/
def width (groups : Nat → Bounds) : Pattern → Bounds
  | empty | anchor _ | look _ _ _ => .exactly 0
  | set _ => .exactly 1
  | cat p q => (p.width groups).add (q.width groups)
  | alt p q => (p.width groups).join (q.width groups)
  | repetition p times _ => (p.width groups).mul times
  | atomic p | group _ p => p.width groups
  | reference n _ _ => groups n
  | choice _ p q => (p.width groups).join (q.width groups)

end SourceReport.Pattern

namespace SourceReport.Text

/-- The offset that a signed bound means in a text of `length` characters. -/
def resolve (length : Nat) (bound : Int) : Nat :=
  if bound < 0 then (length + bound).toNat else min bound.toNat length

def slice (s : List Char) (start stop : Int) : List Char :=
  (s.take (resolve s.length stop)).drop (resolve s.length start)

def sliceFrom (s : List Char) (start : Int) : List Char := s.drop (resolve s.length start)

def lineFeedFrom? (s : List Char) (start : Int) : Option Nat :=
  let from0 := resolve s.length start
  ((s.drop from0).findIdx? (· == '\n')).map (from0 + ·)

/-- Where the line holding a signed bound ends: at the next line feed, else at the end. -/
def lineEnd (s : List Char) (start : Int) : Nat := (lineFeedFrom? s start).getD s.length

def lastLineStart (s : List Char) : Nat := s.length - (s.reverse.takeWhile (· != '\n')).length

theorem resolve_le (length : Nat) (bound : Int) : resolve length bound ≤ length := by
  unfold resolve; split <;> omega

theorem resolve_of_nonneg {length : Nat} {bound : Int} (h : 0 ≤ bound) :
    resolve length bound = min bound.toNat length := by
  unfold resolve; split <;> omega

theorem lastLineStart_le (s : List Char) : lastLineStart s ≤ s.length := Nat.sub_le _ _

end SourceReport.Text

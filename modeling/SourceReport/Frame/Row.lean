import SourceReport.Highlight

namespace SourceReport.Frame

/-- The characters of a line that one row shows, from `start` up to, excluding, `stop`. -/
structure Row where
  start : Nat
  stop : Nat
  deriving DecidableEq

/-- Characters shown before a highlighted span. -/
def leadIn : Nat := 5

/-- The fewest characters that a row, or a comment beside its mark, gets. -/
def leastBudget : Nat := 10

/-- The span from the first to the last highlighted place of a line, none without highlights. -/
def highlightSpan (highlights : List Highlight) (length : Int) : Option (Int × Int) :=
  match (highlights.map fun h => min h.offset length).min?,
      (highlights.map fun h => min h.stop length).max? with
  | some first, some last => some (first, last)
  | _, _ => none

def rowsFrom (length budget start : Nat) : List Row :=
  if 0 < budget ∧ start + budget < length then
    ⟨start, start + budget⟩ :: rowsFrom length budget (start + budget)
  else [⟨start, length⟩]
termination_by length - start

def firstStart (length : Nat) (span : Option (Int × Int)) : Nat :=
  match span with
  | none => 0
  | some (first, _) => (min (max 0 (first - leadIn)) ((length : Int) - 1)).toNat

def lineRows (length : Nat) (span : Option (Int × Int)) (budget : Nat) : List Row :=
  if length ≤ budget then [⟨0, length⟩] else rowsFrom length budget (firstStart length span)

theorem highlightSpan_map (f : Highlight → Highlight) (length : Int)
    (hfirst : ∀ h, min (f h).offset length = min h.offset length)
    (hstop : ∀ h, min (f h).stop length = min h.stop length) (highlights : List Highlight) :
    highlightSpan (highlights.map f) length = highlightSpan highlights length := by
  simp only [highlightSpan, List.map_map, Function.comp_def, hfirst, hstop]

theorem lineRows_of_le {length budget : Nat} (h : length ≤ budget) (span : Option (Int × Int)) :
    lineRows length span budget = [⟨0, length⟩] := by
  rw [lineRows, if_pos h]

theorem firstStart_le (length : Nat) (span : Option (Int × Int)) :
    firstStart length span ≤ length := by
  unfold firstStart
  cases span <;> dsimp only <;> omega

end SourceReport.Frame

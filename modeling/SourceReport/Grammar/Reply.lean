namespace SourceReport.Grammar

/-- The furthest place where a parser could not go on, if there was one, and what it expected. -/
structure Reach where
  furthest : Option Nat := none
  expected : List (List Char) := []
  deriving DecidableEq

namespace Reach

/-- A place as a number, with zero for no place. -/
def rank (r : Reach) : Nat := r.furthest.elim 0 (· + 1)

/-- The reach of two parsers: the further one, or both sets of expectations at the same place. -/
def join (a b : Reach) : Reach :=
  if b.rank < a.rank then a
  else if a.rank = b.rank then
    { furthest := a.furthest, expected := a.expected ++ b.expected.filter (!a.expected.contains ·) }
  else b

@[simp] theorem none_join (a : Reach) : join {} a = a := by
  obtain ⟨f, e⟩ := a
  cases f <;> simp [join, rank]

end Reach

/-- What a parser makes of a text from an index on. -/
structure Reply (α : Type) where
  /-- The value and the index after it; none on failure. -/
  result : Option (α × Nat)
  reach : Reach := {}

abbrev Parser (α : Type) := List Char → Nat → Reply α

namespace Reply
variable {α : Type}

def success (value : α) (index : Nat) : Reply α := { result := some (value, index) }

def failure (index : Nat) (expected : List Char) : Reply α :=
  { result := none, reach := { furthest := some index, expected := [expected] } }

def after (r : Reply α) (earlier : Reach) : Reply α := { r with reach := r.reach.join earlier }

def isSuccess (r : Reply α) : Bool := r.result.isSome

end Reply

end SourceReport.Grammar

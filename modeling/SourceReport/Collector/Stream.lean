import SourceReport.Collector

namespace SourceReport

inductive Item (α κ : Type) where
  | value (a : α)
  | diagnostic (d : Diagnostic κ)
  | failure (d : Diagnostic κ)

/-- What is left of a stream, and what has been collected from it. -/
structure MixedStream (α κ σ : Type) where
  collector : Collector κ σ := {}
  rest : List (Item α κ)

namespace MixedStream

variable {α κ σ : Type} [Kind κ σ] [BEq κ]

def nextFrom (collector : Collector κ σ) : List (Item α κ) → Option α × MixedStream α κ σ
  | [] => (none, { collector, rest := [] })
  | .value a :: rest => (some a, { collector, rest })
  | .diagnostic d :: rest => nextFrom (collector.issue d) rest
  | .failure d :: rest => nextFrom (collector.issue d) rest

/-- The next value, if there is one, and the stream after it. -/
def next (s : MixedStream α κ σ) : Option α × MixedStream α κ σ := nextFrom s.collector s.rest

theorem next_nil (collector : Collector κ σ) :
    next (α := α) { collector, rest := [] } = (none, { collector, rest := [] }) := rfl

end MixedStream

end SourceReport

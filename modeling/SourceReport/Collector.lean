import SourceReport.Diagnostic.Report

namespace SourceReport

namespace Diagnostic
variable {κ σ : Type} [Kind κ σ] [BEq κ]

def accepts (settings : Option σ) (old new : Diagnostic κ) : Bool :=
  !Kind.ignoredForMerge old.kind settings && old.couldMerge new

/-- Merges a diagnostic into the first of `collected` that accepts it, or appends it. -/
def combine (settings : Option σ) : List (Diagnostic κ) → Diagnostic κ → List (Diagnostic κ)
  | [], new => [new]
  | old :: rest, new =>
    if old.accepts settings new then old.addExcerpts new.excerpts :: rest
    else old :: combine settings rest new

def mergeIndex? (settings : Option σ) (collected : List (Diagnostic κ)) (new : Diagnostic κ) :
    Option Nat :=
  collected.findIdx? (·.accepts settings new)

def combineAll (settings : Option σ) (ds : List (Diagnostic κ)) : List (Diagnostic κ) :=
  ds.foldl (combine settings) []

theorem combine_ne_nil (settings : Option σ) (collected : List (Diagnostic κ))
    (new : Diagnostic κ) : combine settings collected new ≠ [] := by
  cases collected with
  | nil => simp [combine]
  | cons old rest =>
    unfold combine
    split <;> simp

end Diagnostic

structure Collector (κ σ : Type) where
  settings : Option σ := none
  diagnostics : List (Diagnostic κ) := []

namespace Collector
variable {κ σ : Type}

def hasDiagnostics (c : Collector κ σ) : Bool := !c.diagnostics.isEmpty

variable [Kind κ σ]

def hasErrors (c : Collector κ σ) : Bool :=
  c.diagnostics.any fun d => Kind.isBlocking d.kind c.settings

/-- All reports, with an empty line between neighbours. -/
def report (c : Collector κ σ) (options : Options) : List Char :=
  Diagnostic.renderAll c.settings options c.diagnostics

def issue [BEq κ] (c : Collector κ σ) (d : Diagnostic κ) : Collector κ σ :=
  { c with diagnostics := Diagnostic.combine c.settings c.diagnostics d }

end Collector

end SourceReport

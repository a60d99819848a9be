import SourceReport.Diagnostic.Report
import SourceReport.Grammar.Combinator
import SourceReport.Text.Order

namespace SourceReport.Grammar
open Text

/-- A place in a source where something else was expected. -/
structure Failure where
  source : List Char
  index : Int
  expected : List (List Char)

/-- What was expected, in order and without repetition. -/
def expectedMessage (expected : List (List Char)) : List Char :=
  match sortedSet expected with
  | [one] => "expected ".toList ++ one
  | several => "expected one of ".toList ++ List.intercalate ", ".toList several

namespace Failure
variable {κ : Type}

def excerpt (f : Failure) (p : Position) (sourceName : Option (List Char)) : Excerpt :=
  let lineStart := f.index - p.column
  let stop := lineEnd f.source lineStart
  let length := if f.index < stop then 1 else 0
  let e := Excerpt.onLine (some p.line) (.borrowed (.clamp f.source lineStart (some stop)))
    p.column length (some (expectedMessage f.expected))
  match sourceName with
  | none => e
  | some name => e.withSource name

def diagnostic (f : Failure) (sourceName : Option (List Char)) (kind : κ) :
    Except Position.Error (Diagnostic κ) := do
  let p ← Position.at? f.source f.index
  return .new kind "Invalid syntax".toList (expectedMessage f.expected) (f.excerpt p sourceName)

end Failure

def Parser.parse {α : Type} (p : Parser α) (source : List Char) : Except Failure α :=
  let r := (p.pair Parser.eof) source 0
  match r.result with
  | some ((value, _), _) => .ok value
  | none =>
    .error
      { source, index := r.reach.furthest.elim (-1) (fun n => (n : Int))
        expected := r.reach.expected }

end SourceReport.Grammar

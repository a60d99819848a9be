namespace SourceReport

structure Description where
  title : List Char
  details : List Char
  suggestions : List (List Char)
  version : List Char

/-- The kinds of a family of diagnostics, with settings of type `σ`. -/
class Kind (κ : Type) (σ : outParam Type) where
  label : κ → List Char
  /-- Whether such a diagnostic keeps the operation from succeeding. -/
  isBlocking : κ → Option σ → Bool
  /-- Whether no other diagnostic may be merged into one of this kind. -/
  ignoredForMerge : κ → Option σ → Bool
  description? : κ → Option Description := fun _ => none

class NamedKind (κ : Type) where
  /-- The kind's name, or the name of its type where the kinds of that type have none. -/
  recordName : κ → Except (List Char) (List Char)

/-- The kinds that records of one type may name. -/
structure KindNames (κ : Type) where
  typeName : List Char
  members : List (List Char × κ)

inductive Severity where
  | error
  | warning
  deriving DecidableEq

namespace Severity

def label : Severity → List Char
  | error => "error".toList
  | warning => "warning".toList

def name : Severity → List Char
  | error => "ERROR".toList
  | warning => "WARNING".toList

def isBlocking : Severity → Bool
  | error => true
  | warning => false

instance : Kind Severity Unit where
  label := label
  isBlocking s _ := s.isBlocking
  ignoredForMerge _ _ := false

instance : NamedKind Severity := ⟨fun s => .ok s.name⟩

def names : KindNames Severity where
  typeName := "BasicKind".toList
  members := [(error.name, error), (warning.name, warning)]

end Severity

end SourceReport

import SourceReport.Excerpt
import SourceReport.Kind

namespace SourceReport

structure Diagnostic (κ : Type) where
  kind : κ
  title : List Char := []
  details : List Char := []
  suggestions : List (List Char) := []
  version : List Char := []
  excerpts : List Excerpt := []
  causes : List (Diagnostic κ) := []

namespace Diagnostic
variable {κ : Type}

mutual

def same [BEq κ] : Diagnostic κ → Diagnostic κ → Bool
  | ⟨k, t, d, s, v, e, c⟩, ⟨k', t', d', s', v', e', c'⟩ =>
    k == k' && t == t' && d == d' && s == s' && v == v' && e == e' && sameAll c c'

def sameAll [BEq κ] : List (Diagnostic κ) → List (Diagnostic κ) → Bool
  | [], [] => true
  | d :: ds, d' :: ds' => same d d' && sameAll ds ds'
  | _, _ => false

end

instance [BEq κ] : BEq (Diagnostic κ) := ⟨same⟩

/-- Whether two diagnostics are equal in everything but their excerpts, so that one can stand for
both. -/
def couldMerge [BEq κ] (a b : Diagnostic κ) : Bool :=
  a.kind == b.kind && a.title == b.title && a.details == b.details &&
    a.suggestions == b.suggestions && a.version == b.version && sameAll a.causes b.causes

def new (kind : κ) (title details : List Char) (excerpt : Excerpt) : Diagnostic κ :=
  { kind, title, details, excerpts := [excerpt] }

def small (kind : κ) (title details : List Char) : Diagnostic κ := { kind, title, details }

def withDetails (d : Diagnostic κ) (details : List Char) : Diagnostic κ := { d with details }

def addSuggestions (d : Diagnostic κ) (suggestions : List (List Char)) : Diagnostic κ :=
  { d with suggestions := d.suggestions ++ suggestions }

def withVersion (d : Diagnostic κ) (version : List Char) : Diagnostic κ := { d with version }

def replaceExcerpt (d : Diagnostic κ) (excerpt : Excerpt) : Diagnostic κ :=
  { d with excerpts := [excerpt] }

def addExcerpts (d : Diagnostic κ) (excerpts : List Excerpt) : Diagnostic κ :=
  { d with excerpts := d.excerpts ++ excerpts }

def addCauses (d : Diagnostic κ) (causes : List (Diagnostic κ)) : Diagnostic κ :=
  { d with causes := d.causes ++ causes }

def overwriteLineIndex (d : Diagnostic κ) (index : Int) : Diagnostic κ :=
  { d with excerpts := d.excerpts.map (·.withLineIndex index) }

mutual

def toOwned : Diagnostic κ → Diagnostic κ
  | ⟨k, t, d, s, v, e, c⟩ => ⟨k, t, d, s, v, e.map Excerpt.toOwned, toOwnedAll c⟩

def toOwnedAll : List (Diagnostic κ) → List (Diagnostic κ)
  | [] => []
  | d :: ds => d.toOwned :: toOwnedAll ds

end

def ofKind? {σ : Type} [Kind κ σ] (kind : κ) (excerpt : Option Excerpt) : Option (Diagnostic κ) :=
  (Kind.description? kind).map fun about =>
    { kind, title := about.title, details := about.details, suggestions := about.suggestions
      version := about.version, excerpts := excerpt.toList }

theorem toOwnedAll_eq_map (ds : List (Diagnostic κ)) : toOwnedAll ds = ds.map toOwned := by
  induction ds with
  | nil => rfl
  | cons d ds ih => simp [toOwnedAll, ih]

end Diagnostic

end SourceReport

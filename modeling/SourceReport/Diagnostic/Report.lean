import SourceReport.Diagnostic
import SourceReport.Emphasis
import SourceReport.Frame.Block

namespace SourceReport.Diagnostic
open Text

variable {κ σ : Type} [Kind κ σ]

/-- Whether the diagnostic is shown as a blocking one, as it is when there are no settings. -/
def showsBlocking (settings : Option σ) (d : Diagnostic κ) : Bool :=
  settings.isNone || Kind.isBlocking d.kind settings

def suggestionLines (colour : Bool) : List (List Char) → List (List Char)
  | [] => []
  | [one] => [Emphasis.advice.decorate colour "Did you mean".toList ++ ": ".toList ++ one ++ ['?']]
  | many =>
    [Emphasis.advice.decorate colour "Did you mean any of".toList ++ ": ".toList ++
      List.intercalate ", ".toList many ++ ['?']]

def ownLines (settings : Option σ) (options : Options) (d : Diagnostic κ) : List (List Char) :=
  let colour := options.colour
  let role := if d.showsBlocking settings then Emphasis.alarm else .advice
  [role.decorate colour (Kind.label d.kind) ++ ": ".toList ++ d.title] ++
    Excerpt.sharedDrawnLines d.excerpts none options ++ [d.details] ++
    suggestionLines colour d.suggestions ++
    (if d.version.isEmpty then []
      else [Emphasis.version.decorate colour "Version".toList ++ ": ".toList ++ d.version])

def causesTitle (colour : Bool) (count : Nat) : List Char :=
  Emphasis.cause.decorate colour
    (if count = 1 then "Underlying error".toList else "Underlying errors".toList) ++ [':', '\n']

mutual

/-- The report of a diagnostic. Every line of it ends with a line feed. -/
def render (settings : Option σ) (options : Options) : Diagnostic κ → List Char
  | ⟨k, t, d, s, v, e, c⟩ =>
    joinLines (ownLines settings options ⟨k, t, d, s, v, e, []⟩) ++ ['\n'] ++
      if c.isEmpty then [] else causesTitle options.colour c.length ++ renderAll settings options c

def renderAll (settings : Option σ) (options : Options) : List (Diagnostic κ) → List Char
  | [] => []
  | d :: ds =>
    d.render settings options ++
      if ds.isEmpty then [] else '\n' :: renderAll settings options ds

end

def toReport (d : Diagnostic κ) : List Char := d.render none default

end SourceReport.Diagnostic

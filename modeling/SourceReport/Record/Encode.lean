import SourceReport.Diagnostic
import SourceReport.Json

namespace SourceReport.Record

def optional {α : Type} (make : α → Json) (value : Option α) : Json := value.elim .null make

def ofHighlight (h : Highlight) : Json :=
  .obj [("line".toList, .num h.line), ("offset".toList, .num h.offset),
    ("length".toList, .num h.length), ("comment".toList, optional .str h.comment)]

def ofExcerpt (e : Excerpt) : Json :=
  .obj [("source".toList, optional .str e.source),
    ("line_number".toList, optional .num e.lineNumber),
    ("first_line_offset".toList, .num e.firstLineOffset),
    ("lines".toList, .str e.text.content),
    ("highlights".toList, .arr (e.highlights.map ofHighlight))]

inductive EncodeError where
  | unnamedKind (typeName : List Char)
  deriving DecidableEq

def EncodeError.message : EncodeError → List Char
  | unnamedKind typeName => "only enum kinds can be serialised, got ".toList ++ typeName

variable {κ : Type} [NamedKind κ]

mutual

/-- The record of a diagnostic, if it and all its causes have kinds with names. -/
def ofDiagnostic : Diagnostic κ → Except EncodeError Json
  | ⟨kind, title, details, suggestions, version, excerpts, causes⟩ => do
    let name ← (NamedKind.recordName kind).mapError .unnamedKind
    let causes ← ofDiagnostics causes
    return .obj [("kind".toList, .str name), ("short_description".toList, .str title),
      ("long_description".toList, .str details),
      ("suggestions".toList, .arr (suggestions.map .str)), ("version".toList, .str version),
      ("contexts".toList, .arr (excerpts.map ofExcerpt)), ("underlying".toList, .arr causes)]

def ofDiagnostics : List (Diagnostic κ) → Except EncodeError (List Json)
  | [] => return []
  | d :: ds => do
    let record ← ofDiagnostic d
    let records ← ofDiagnostics ds
    return record :: records

end

end SourceReport.Record

import SourceReport.Record.Draft
import SourceReport.Record.Encode

namespace SourceReport.Record

def toText : Json → Result (List Char)
  | .str s => .ok s
  | _ => .error .wrongType

def toInteger : Json → Result Int
  | .num n => .ok n
  | _ => .error .wrongType

def toOptional {α : Type} (read : Json → Result α) : Json → Result (Option α)
  | .null => .ok none
  | j => some <$> read j

def HighlightDraft.settle (h : HighlightDraft) : Result Highlight := do
  return { line := ← toInteger h.line, offset := ← toInteger h.offset
           length := ← toInteger h.length, comment := ← toOptional toText h.comment }

def ExcerptDraft.settle (e : ExcerptDraft) : Result Excerpt := do
  let source ← toOptional toText e.source
  let lineNumber ← toOptional toInteger e.lineNumber
  let firstLineOffset ← toInteger e.firstLineOffset
  let text ← toText e.text
  let highlights ← e.highlights.mapM HighlightDraft.settle
  return { source, lineNumber, firstLineOffset, text := .owned text, highlights }

namespace Draft
variable {κ : Type}

mutual

def settle : Draft κ → Result (Diagnostic κ)
  | ⟨kind, title, details, suggestions, version, excerpts, causes⟩ => do
    let title ← toText title
    let details ← toText details
    let suggestions ← suggestions.mapM toText
    let version ← toText version
    let excerpts ← excerpts.mapM ExcerptDraft.settle
    let causes ← settleAll causes
    return { kind, title, details, suggestions, version, excerpts, causes }

def settleAll : List (Draft κ) → Result (List (Diagnostic κ))
  | [] => return []
  | d :: ds => do
    let diagnostic ← d.settle
    let diagnostics ← settleAll ds
    return diagnostic :: diagnostics

end

end Draft

def toExcerpt (j : Json) : Result Excerpt := do (← draftExcerpt j).settle

variable {κ : Type}

def toDiagnostic (names : KindNames κ) (j : Json) : Result (Diagnostic κ) := do
  (← draft names j).settle

def read (names : KindNames κ) (text : List Char) : Result (Diagnostic κ) := do
  (← load names text).settle

end SourceReport.Record

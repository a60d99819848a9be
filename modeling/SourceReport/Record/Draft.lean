import SourceReport.Json.Reader
import SourceReport.Kind

namespace SourceReport.Record

inductive DecodeError where
  | notJson
  | unknownKind (typeName : List Char) (kind : Json)
  | missingField (name : List Char)
  | wrongType
  | noExcerpt

def DecodeError.message : DecodeError → List Char
  | notJson => "not JSON".toList
  | unknownKind typeName kind =>
    "unknown ".toList ++ typeName ++ " member: ".toList ++ kind.describe
  | missingField name => '\x27' :: name ++ ['\x27']
  | wrongType => "value of the wrong type".toList
  | noExcerpt => "no record of an excerpt".toList

abbrev Result (α : Type) := Except DecodeError α

structure HighlightDraft where
  line : Json
  offset : Json
  length : Json
  comment : Json

structure ExcerptDraft where
  source : Json
  lineNumber : Json
  firstLineOffset : Json
  text : Json
  highlights : List HighlightDraft

/-- A diagnostic as its record has it, with a kind from `κ`. -/
structure Draft (κ : Type) where
  kind : κ
  title : Json
  details : Json
  suggestions : List Json
  version : Json
  excerpts : List ExcerptDraft
  causes : List (Draft κ)

/-- The values that a value consists of: a list's items, an object's names, a text's characters. -/
def toItems : Json → Result (List Json)
  | .arr items => .ok items
  | .obj fields => .ok (fields.map fun f => .str f.1)
  | .str s => .ok (s.map fun c => .str [c])
  | _ => .error .wrongType

def fieldOr (default : Json) (j : Json) (name : String) : Json :=
  (j.field? name.toList).getD default

def itemsIn (j : Json) (name : String) : Result (List Json) :=
  match j.field? name.toList with
  | none => .ok []
  | some value => toItems value

def required (j : Json) (name : String) : Result Json :=
  match j.field? name.toList with
  | none => .error (.missingField name.toList)
  | some value => .ok value

def draftHighlight (j : Json) : Result HighlightDraft :=
  match j with
  | .obj _ => do
    let line ← required j "line"
    let offset ← required j "offset"
    let length ← required j "length"
    return { line, offset, length, comment := fieldOr .null j "comment" }
  | _ => .error .wrongType

def draftExcerpt (j : Json) : Result ExcerptDraft :=
  match j with
  | .obj _ => do
    let highlights ← (← itemsIn j "highlights").mapM draftHighlight
    return { source := fieldOr .null j "source", lineNumber := fieldOr .null j "line_number"
             firstLineOffset := fieldOr (.num 0) j "first_line_offset"
             text := fieldOr (.str []) j "lines", highlights }
  | _ => .error .noExcerpt

variable {κ : Type}

def toKind (names : KindNames κ) (j : Json) : Result κ :=
  match j with
  | .obj _ =>
    let named := (j.field? "kind".toList).getD .null
    if named.isContainer then .error .wrongType
    else
      match named with
      | .str name =>
        match names.members.lookup name with
        | some kind => .ok kind
        | none => .error (.unknownKind names.typeName named)
      | _ => .error (.unknownKind names.typeName named)
  | _ => .error .wrongType

/-- The draft of a record nested at most `depth` deep. -/
def draftAt (names : KindNames κ) : (depth : Nat) → Json → Result (Draft κ)
  | 0, _ => .error .wrongType
  | depth + 1, j => do
    let kind ← toKind names j
    let suggestions ← itemsIn j "suggestions"
    let excerpts ← (← itemsIn j "contexts").mapM draftExcerpt
    let causes ← (← itemsIn j "underlying").mapM (draftAt names depth)
    return { kind, title := fieldOr (.str []) j "short_description"
             details := fieldOr (.str []) j "long_description", suggestions
             version := fieldOr (.str []) j "version", excerpts, causes }

def draft (names : KindNames κ) (j : Json) : Result (Draft κ) := draftAt names j.depth j

def load (names : KindNames κ) (text : List Char) : Result (Draft κ) :=
  match Json.read? text with
  | none => .error .notJson
  | some j => draft names j

end SourceReport.Record

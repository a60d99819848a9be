import SourceReport.Diagnostic.Report
import SourceReport.Markup.Excerpt

namespace SourceReport.Markup

variable {κ σ : Type} [Kind κ σ]

def suggestionNodes (suggestions : List (List Char)) : List Node :=
  if suggestions.isEmpty then []
  else
    let question := if suggestions.length = 1 then "Did you mean?" else "Did you mean any of?"
    [.element .p [] [.text question.toList],
      .element .ul [] (suggestions.map fun s => .classed .li "suggestion".toList [.text s])]

def versionNodes (version : List Char) : List Node :=
  if version.isEmpty then []
  else
    [.classed .p "version".toList
      [.text "Version: ".toList, .classed .span "version-text".toList [.text version]]]

def causeNodes (items : List Node) : List Node :=
  if items.isEmpty then []
  else
    let title := if items.length = 1 then " Underlying error" else " Underlying errors"
    [.element .label []
        [.element .input [(.type, "checkbox".toList)] [], .text title.toList],
      .element .ul [] items]

/-- The class of a diagnostic: its label, and a word more if it does not block. -/
def diagnosticClass (settings : Option σ) (d : Diagnostic κ) : List Char :=
  Kind.label d.kind ++ if d.showsBlocking settings then [] else " non-blocking".toList

def ownNodes (options : Options) (d : Diagnostic κ) : List Node :=
  [.classed .p "title".toList [.text d.title],
    .classed .div "contexts".toList (d.excerpts.flatMap (excerptNodes options)),
    .classed .p "description".toList [.text d.details]] ++
    suggestionNodes d.suggestions ++ versionNodes d.version

mutual

def diagnosticNode (settings : Option σ) (options : Options) : Diagnostic κ → Node
  | ⟨k, t, d, s, v, e, c⟩ =>
    let top : Diagnostic κ := ⟨k, t, d, s, v, e, []⟩
    .classed .div (diagnosticClass settings top)
      (ownNodes options top ++ causeNodes (causeItems settings options c))

def causeItems (settings : Option σ) (options : Options) : List (Diagnostic κ) → List Node
  | [] => []
  | d :: ds =>
    .classed .li "underlying_error".toList [diagnosticNode settings options d] ::
      causeItems settings options ds

end

end SourceReport.Markup

namespace SourceReport

def Diagnostic.toHtml {κ σ : Type} [Kind κ σ] (d : Diagnostic κ) (settings : Option σ)
    (options : Options) : List Char :=
  (Markup.diagnosticNode settings options d).print

end SourceReport

import SourceReport.Proofs.Diagnostic.Nodes
import SourceReport.Proofs.Markup.Texts

namespace SourceReport
open Text

namespace Diagnostic
variable {κ : Type}

/-- The texts of a diagnostic's own parts, beside the lines of its excerpts. -/
def ownTexts (d : Diagnostic κ) : List (List Char) :=
  d.title :: d.details :: d.version :: (d.suggestions ++ d.excerpts.flatMap Excerpt.texts)

/-- The texts that a diagnostic is shown with, those of its causes included. -/
def texts (d : Diagnostic κ) : List (List Char) := d.nodes.flatMap ownTexts

end Diagnostic

namespace Markup

section
variable {s : List Char}

theorem suggestion_infix_suggestionNodes {suggestions : List (List Char)} (h : s ∈ suggestions) :
    escape s <:+: printAll (suggestionNodes suggestions) := by
  have hne : ¬suggestions.isEmpty = true := by
    rw [List.isEmpty_iff]
    exact List.ne_nil_of_mem h
  have hitem : escape s <:+: printAll
      (suggestions.map fun s => .classed .li "suggestion".toList [.text s]) :=
    text_infix_printAll (List.mem_map_of_mem h)
  rw [suggestionNodes, if_neg hne]
  exact hitem.trans (inside_infix_printAll (List.mem_cons_of_mem _ (List.mem_singleton_self _)))

theorem version_infix_versionNodes {version : List Char} (h : version ≠ []) :
    escape version <:+: printAll (versionNodes version) := by
  have hne : ¬version.isEmpty = true := by
    rw [List.isEmpty_iff]
    exact h
  have hinside : escape version <:+: printAll
      [.text "Version: ".toList, .classed .span "version-text".toList [.text version]] :=
    text_infix_printAll (List.mem_cons_of_mem _ (List.mem_singleton_self _))
  rw [versionNodes, if_neg hne]
  exact hinside.trans (inside_infix_printAll (List.mem_singleton_self _))

theorem items_infix_causeNodes (items : List Node) :
    printAll items <:+: printAll (causeNodes items) := by
  rw [causeNodes]
  split
  · rename_i hnil
    rw [List.isEmpty_iff.mp hnil]
  · exact inside_infix_printAll (List.mem_cons_of_mem _ (List.mem_singleton_self _))

end

section
variable {κ σ : Type} [Kind κ σ] (settings : Option σ) (options : Options) {s : List Char}

theorem escape_infix_ownNodes (hs : s ≠ []) {d : Diagnostic κ} (h : s ∈ d.ownTexts) :
    escape s <:+: printAll (ownNodes options d) := by
  have htitle : .classed .p "title".toList [.text d.title] ∈ ownNodes options d := by
    simp [ownNodes]
  have hdetails : .classed .p "description".toList [.text d.details] ∈ ownNodes options d := by
    simp [ownNodes]
  have hcontexts : .classed .div "contexts".toList (d.excerpts.flatMap (excerptNodes options)) ∈
      ownNodes options d := by
    simp [ownNodes]
  simp only [Diagnostic.ownTexts, List.mem_cons, List.mem_append] at h
  rcases h with rfl | rfl | rfl | h | h
  · exact text_infix_printAll htitle
  · exact text_infix_printAll hdetails
  · exact (version_infix_versionNodes hs).trans
      (printAll_infix_printAll (List.suffix_append _ _).isInfix)
  · exact (suggestion_infix_suggestionNodes h).trans (printAll_infix_printAll ⟨_, _, rfl⟩)
  · obtain ⟨e, he, h⟩ := List.mem_flatMap.mp h
    have hexcerpts := (escape_infix_excerptNodes options hs h).trans
      (printAll_infix_flatMap (excerptNodes options) he)
    exact hexcerpts.trans (inside_infix_printAll hcontexts)

mutual

theorem ownNodes_infix_diagnosticNode : ∀ d : Diagnostic κ, ∀ n ∈ d.nodes,
    printAll (ownNodes options n) <:+: (diagnosticNode settings options d).print
  | ⟨_, _, _, _, _, _, causes⟩, n, h => by
    rw [diagnosticNode]
    refine .trans ?_ (printAll_infix_print _ _ _)
    rcases List.mem_cons.mp h with rfl | h
    · exact printAll_infix_printAll (List.prefix_append _ _).isInfix
    · exact ((ownNodes_infix_causeItems causes n h).trans (items_infix_causeNodes _)).trans
        (printAll_infix_printAll (List.suffix_append _ _).isInfix)

theorem ownNodes_infix_causeItems : ∀ ds : List (Diagnostic κ), ∀ n ∈ Diagnostic.nodesAll ds,
    printAll (ownNodes options n) <:+: printAll (causeItems settings options ds)
  | [], _, h => (List.not_mem_nil h).elim
  | d :: ds, n, h => by
    rw [causeItems]
    rcases List.mem_append.mp h with h | h
    · exact ((ownNodes_infix_diagnosticNode d n h).trans
        (print_infix_printAll (List.mem_singleton_self _))).trans
          (inside_infix_printAll List.mem_cons_self)
    · exact (ownNodes_infix_causeItems ds n h).trans
        (printAll_infix_printAll (List.suffix_cons _ _).isInfix)

end

end

def rowsShown (options : Options) (e : Excerpt) : List (List Char) :=
  (e.logicalLines.mapIdx fun i line => (rowsOf options e i line).map
    (rowShown (i == 0 && decide (0 < e.firstLineOffset)) line)).flatten

def linesIn (ns : List Node) : List (List Char) := lineContents (shownAll ns)

@[simp] theorem linesIn_nil : linesIn [] = [] := rfl

theorem linesIn_append (ns ms : List Node) : linesIn (ns ++ ms) = linesIn ns ++ linesIn ms :=
  contentsIn_append _ _ ns ms

theorem linesIn_text (s : List Char) (ns : List Node) : linesIn (.text s :: ns) = linesIn ns :=
  contentsIn_text _ _ s ns

theorem linesIn_element {tag : Tag} {attributes : List (Attribute × List Char)}
    (hother : openingToken tag attributes ≠ .opening "span".toList [("class".toList, "line".toList)])
    (children ns : List Node) :
    linesIn (.element tag attributes children :: ns) = linesIn children ++ linesIn ns := by
  have hcontents := contentsIn_element "span".toList [("class".toList, "line".toList)] tag
    attributes children ns
  rw [if_neg hother, List.nil_append] at hcontents
  exact hcontents

theorem linesIn_suggestionNodes (suggestions : List (List Char)) :
    linesIn (suggestionNodes suggestions) = [] := by
  have hitems : linesIn
      (suggestions.map fun s => .classed .li "suggestion".toList [.text s]) = [] := by
    induction suggestions with
    | nil => rfl
    | cons s suggestions ih =>
      rw [List.map_cons, Node.classed, linesIn_element (by decide), linesIn_text, ih]
      rfl
  rw [suggestionNodes]
  split
  · rfl
  · dsimp only
    rw [linesIn_element (by decide), linesIn_text, linesIn_element (by decide), hitems]
    rfl

theorem linesIn_versionNodes (version : List Char) : linesIn (versionNodes version) = [] := by
  rw [versionNodes]
  split
  · rfl
  · rw [Node.classed, linesIn_element (by decide), linesIn_text, Node.classed,
      linesIn_element (by decide), linesIn_text]
    rfl

theorem linesIn_causeNodes (items : List Node) : linesIn (causeNodes items) = linesIn items := by
  rw [causeNodes]
  split
  · rename_i hnil
    rw [List.isEmpty_iff.mp hnil]
  · dsimp only
    rw [linesIn_element (by decide), linesIn_element (by decide), linesIn_text,
      linesIn_element (by decide)]
    exact List.append_nil _

section
variable {κ σ : Type} [Kind κ σ] (settings : Option σ) (options : Options)

theorem linesIn_ownNodes (d : Diagnostic κ) :
    linesIn (ownNodes options d) = d.excerpts.flatMap (rowsShown options) := by
  have hexcerpts : linesIn (d.excerpts.flatMap (excerptNodes options)) =
      d.excerpts.flatMap (rowsShown options) :=
    (contentsIn_flatMap _ _ (excerptNodes options) d.excerpts).trans
      (List.flatMap_congr fun e _ => lineContents_excerptNodes options e)
  rw [ownNodes, linesIn_append, linesIn_append, linesIn_suggestionNodes, linesIn_versionNodes]
  simp only [Node.classed]
  rw [linesIn_element (by decide), linesIn_text, linesIn_element (by decide), hexcerpts,
    linesIn_element (by decide), linesIn_text]
  simp only [linesIn_nil, List.append_nil, List.nil_append]

mutual

theorem linesIn_diagnosticNode : ∀ d : Diagnostic κ,
    linesIn [diagnosticNode settings options d] = d.allExcerpts.flatMap (rowsShown options)
  | ⟨kind, title, details, suggestions, version, excerpts, causes⟩ => by
    have hdiv (name : List Char) : openingToken .div [(.class_, name)] ≠
        .opening "span".toList [("class".toList, "line".toList)] :=
      fun h => absurd (Token.opening.inj h).1 (by decide)
    rw [diagnosticNode, Node.classed, linesIn_element (hdiv _), linesIn_append, linesIn_ownNodes,
      linesIn_causeNodes, linesIn_causeItems causes, Diagnostic.allExcerpts, Diagnostic.nodes,
      List.flatMap_cons, List.flatMap_append, linesIn_nil, List.append_nil]

theorem linesIn_causeItems : ∀ ds : List (Diagnostic κ), linesIn (causeItems settings options ds) =
    ((Diagnostic.nodesAll ds).flatMap (·.excerpts)).flatMap (rowsShown options)
  | [] => rfl
  | d :: ds => by
    rw [causeItems, Node.classed, linesIn_element (by decide), linesIn_diagnosticNode d,
      linesIn_causeItems ds, Diagnostic.nodesAll, List.flatMap_append, List.flatMap_append]
    rfl

end

end

end Markup

/-- The markup of a diagnostic reads as tags and character data. Its tags are closed, last opened
first; the texts are all there, and the rows of all excerpts, one after the other; character data
and attribute values hold no character that could end them; and another diagnostic that is masked
alike has the same tags, whatever its kinds and settings. -/
theorem Diagnostic.tokenize_toHtml {κ σ : Type} [Kind κ σ] (d : Diagnostic κ)
    (settings : Option σ) (options : Options) :
    ∃ tokens, Markup.tokenize (d.toHtml settings options) = some tokens ∧
      Markup.WellNested tokens ∧ (∀ t ∈ tokens, t.Inert) ∧
      (∀ s ∈ d.texts, Markup.escape s <:+: d.toHtml settings options) ∧
      Markup.lineContents (Markup.dereference tokens) =
        d.allExcerpts.flatMap (Markup.rowsShown options) ∧
      ∀ {κ' σ' : Type} [Kind κ' σ'] (d' : Diagnostic κ') (settings' : Option σ'),
        d.masked = d'.masked →
        ∃ tokens', Markup.tokenize (d'.toHtml settings' options) = some tokens' ∧
          Markup.tagNames tokens' = Markup.tagNames tokens := by
  refine ⟨_, Markup.tokenize_print _, Markup.wellNested_tokens _, Markup.inert_of_mem_tokens _,
    ?_, ?_, ?_⟩
  · intro s hs
    by_cases hnil : s = []
    · rw [hnil]
      exact List.nil_infix
    · obtain ⟨n, hn, hs⟩ := List.mem_flatMap.mp hs
      exact (Markup.escape_infix_ownNodes options hnil hs).trans
        (Markup.ownNodes_infix_diagnosticNode settings options d n hn)
  · have hread := Markup.dereference_tokens (Markup.diagnosticNode settings options d) []
    rw [List.append_nil] at hread
    rw [hread]
    exact Markup.linesIn_diagnosticNode settings options d
  · intro κ' σ' _ d' settings' hmasked
    exact ⟨_, Markup.tokenize_print _,
      (Markup.tags_diagnosticNode_congr settings settings' options d d' hmasked).symm⟩

def hostileWarning : Diagnostic Severity :=
  { kind := .warning, title := "</p><b>".toList, version := ['&']
    excerpts := [{ source := some "\x27>".toList, lineNumber := some (-1)
                   text := .owned "a<b>\nc".toList
                   highlights := [⟨0, 1, 2, some "\x27/>".toList⟩, ⟨0, 2, 0, none⟩,
                     ⟨0, 1, 2, some "\x22/>".toList⟩, ⟨1, 1, 0, some []⟩] }]
    causes := [{ kind := .error, suggestions := ["</ul>".toList, []] }] }

def plainError : Diagnostic Severity :=
  { kind := .error, title := "letters".toList, version := ['v']
    excerpts := [{ source := some "xy".toList, lineNumber := some (-1)
                   text := .owned "abcd\ne".toList
                   highlights := [⟨0, 1, 2, some "one".toList⟩, ⟨0, 2, 0, none⟩,
                     ⟨0, 1, 2, some "one".toList⟩, ⟨1, 1, 0, some []⟩] }]
    causes := [{ kind := .warning, suggestions := ["fives".toList, []] }] }

theorem Diagnostic.tokenize_toHtml_hostileWarning :
    hostileWarning.masked = plainError.masked ∧
    (∀ s ∈ ["</ul>".toList, "\x27>".toList, "\x22/>".toList], s ∈ hostileWarning.texts) ∧
    ∃ tokens tokens', Markup.tokenize (hostileWarning.toHtml none {}) = some tokens ∧
      Markup.tokenize (plainError.toHtml (some ()) {}) = some tokens' ∧
      Markup.WellNested tokens ∧ (∀ t ∈ tokens, t.Inert) ∧
      (∀ s ∈ ["</ul>".toList, "\x27>".toList, "\x22/>".toList],
        Markup.escape s <:+: hostileWarning.toHtml none {}) ∧
      Markup.lineContents (Markup.dereference tokens) = ["a<b>".toList, "c".toList] ∧
      Markup.tagNames tokens' = Markup.tagNames tokens := by
  have hmasked : hostileWarning.masked = plainError.masked := by
    simp [hostileWarning, plainError, masked, maskedAll, Excerpt.masked, Highlight.masked, mask,
      Passage.content]
  have htexts : ∀ s ∈ ["</ul>".toList, "\x27>".toList, "\x22/>".toList],
      s ∈ hostileWarning.texts := by decide
  have hrows : hostileWarning.allExcerpts.flatMap (Markup.rowsShown {}) =
      ["a<b>".toList, "c".toList] := by decide
  obtain ⟨tokens, hread, hnested, hinert, hkept, hlines, hsame⟩ :=
    Diagnostic.tokenize_toHtml hostileWarning none {}
  obtain ⟨tokens', hread', htags⟩ := hsame plainError (some ()) hmasked
  exact ⟨hmasked, htexts, tokens, tokens', hread, hread', hnested, hinert,
    fun s hs => hkept s (htexts s hs), hlines.trans hrows, htags⟩

end SourceReport

import Mathlib
import SourceReport.Command.Run
import SourceReport.Proofs.Collector.Grouping
import SourceReport.Proofs.Excerpt.Matched
import SourceReport.Proofs.Pattern.Spans
import SourceReport.Proofs.Results
import SourceReport.Proofs.Text.CodeOrder

namespace SourceReport.Command
open Text

/-- The files that are looked through: an input file, or those in a folder in the order of their
names. -/
inductive Scanned (path : List Char) : Input → List (List Char × Reading) → Prop
  | file (reading : Reading) : Scanned path (.file reading) [(path, reading)]
  | folder {files sorted : List (List Char × Reading)} (perm : sorted.Perm files)
      (ordered : sorted.Pairwise fun a b => ¬ b.1 < a.1) :
      Scanned path (.folder files) (sorted.map fun file => (entryPath path file.1, file.2))

theorem scanned_filesToScan (path : List Char) {input : Input} (h : input ≠ .missing) :
    Scanned path input (filesToScan path input) := by
  cases input with
  | missing => exact absurd rfl h
  | file reading => exact .file reading
  | folder files =>
    have hsorted : (files.mergeSort fun a b => codeLe a.1 b.1).Pairwise fun a b =>
        codeLe a.1 b.1 = true :=
      List.pairwise_mergeSort (fun a b c => codeLe_trans a.1 b.1 c.1)
        (fun a b => codeLe_total a.1 b.1) files
    exact .folder (List.mergeSort_perm _ _) (hsorted.imp codeLe_iff.mp)

theorem Scanned.eq_of_nodup {path : List Char} {files scanned scanned' : List (List Char × Reading)}
    (hnodup : (files.map Prod.fst).Nodup) (h : Scanned path (.folder files) scanned)
    (h' : Scanned path (.folder files) scanned') : scanned = scanned' := by
  cases h with
  | folder perm ordered =>
    cases h' with
    | folder perm' ordered' =>
      congr 1
      apply (perm.trans perm'.symm).eq_of_pairwise _ ordered ordered'
      intro a b ha hb hba hab
      rw [List.not_lt] at hab hba
      exact List.inj_on_of_nodup_map hnodup (perm.mem_iff.mp ha) (perm'.mem_iff.mp hb)
        (List.le_antisymm hba hab)

def Reading.text? : Reading → Option (List Char)
  | .bytes content => (Utf8.decode? content).map unifyBreaks
  | .refused _ => none

structure Match where
  path : List Char
  source : List Char
  start : Nat
  stop : Nat

/-- The matches in a file, in order. A file without a text has none. -/
def matchesIn (pattern : Pattern) (file : List Char × Reading) : List Match :=
  match file.2.text? with
  | none => []
  | some source => (pattern.findAll source).map fun span =>
    { path := file.1, source, start := span.1, stop := span.2 }

section
variable {pattern : Pattern} {path : List Char} {reading : Reading}

theorem matchesIn_of_none (h : reading.text? = none) : matchesIn pattern (path, reading) = [] := by
  simp only [matchesIn, h]

theorem matchesIn_of_some {source : List Char} (h : reading.text? = some source) :
    matchesIn pattern (path, reading) = (pattern.findAll source).map fun span =>
      { path, source, start := span.1, stop := span.2 } := by
  simp only [matchesIn, h]

end

namespace Match

/-- The excerpt of a match, for which it has to lie in the text. -/
def excerpt? (comment : Option (List Char)) (m : Match) : Except Position.Error Excerpt :=
  Excerpt.ofMatch? m.source m.start m.stop m.path comment

def excerpt (comment : Option (List Char)) (m : Match) : Excerpt :=
  Excerpt.ofMatch m.source m.start m.stop m.path comment

theorem excerpt?_of_mem {pattern : Pattern} {file : List Char × Reading} {m : Match}
    (h : m ∈ matchesIn pattern file) (comment : Option (List Char)) :
    m.excerpt? comment = .ok (m.excerpt comment) := by
  unfold matchesIn at h
  split at h
  · cases h
  · rename_i source _
    obtain ⟨span, hspan, rfl⟩ := List.mem_map.mp h
    obtain ⟨hle, hstop⟩ := (pattern.findAll_spans source).1 span hspan
    exact Excerpt.ofMatch?_natCast hle hstop file.1 comment

end Match

/-- What is collected of excerpts under one template: a diagnostic with all of them, if there are
any. -/
def collected (template : Diagnostic Severity) (excerpts : List Excerpt) :
    List (Diagnostic Severity) :=
  if excerpts.isEmpty then [] else [{ template with excerpts }]

theorem accepts_template (template : Diagnostic Severity) (excerpts excerpts' : List Excerpt) :
    Diagnostic.accepts (none : Option Unit) { template with excerpts }
      { template with excerpts := excerpts' } = true :=
  Diagnostic.couldMerge_refl template

theorem combine_collected (template : Diagnostic Severity) (excerpts : List Excerpt)
    (e : Excerpt) :
    Diagnostic.combine (none : Option Unit) (collected template excerpts)
      (template.replaceExcerpt e) = collected template (excerpts ++ [e]) := by
  cases excerpts with
  | nil => rfl
  | cons first rest =>
    exact Diagnostic.combine_cons_of_accepts (accepts_template template (first :: rest) [e]) []

theorem mergeIndex?_collected {template : Diagnostic Severity} {excerpts : List Excerpt}
    {e : Excerpt} {index : Nat}
    (h : Diagnostic.mergeIndex? (none : Option Unit) (collected template excerpts)
      (template.replaceExcerpt e) = some index) : index = 0 := by
  cases excerpts with
  | nil => cases h
  | cons first rest =>
    have haccepts := accepts_template template (first :: rest) [e]
    have hfirst : Diagnostic.mergeIndex? (none : Option Unit) (collected template (first :: rest))
        (template.replaceExcerpt e) = some 0 := by
      have hone : collected template (first :: rest) =
          [{ template with excerpts := first :: rest }] := rfl
      rw [Diagnostic.mergeIndex?, hone, List.findIdx?_cons]
      exact if_pos haccepts
    exact Option.some.inj (h.symm.trans hfirst)

namespace Search
variable {s : Search} {files : List (List Char × Reading)} {p : Progress} {excerpts : List Excerpt}

/-- The lines that a search through files may log: one for a file without a text and, if it is to
tell more, one for every other file and for every match after the first. -/
inductive Logs (s : Search) (files : List (List Char × Reading)) : List Char → Prop
  | skipped {path : List Char} {reading : Reading} (mem : (path, reading) ∈ files)
      (text : reading.text? = none) (reason : List Char) : Logs s files (skipNote path reason)
  | counted {path source : List Char} {reading : Reading} (verbose : s.verbose = true)
      (mem : (path, reading) ∈ files) (text : reading.text? = some source) :
      Logs s files (countNote path (s.pattern.findAll source).length)
  | merged (verbose : s.verbose = true) (excerpts : List Excerpt) :
      Logs s files (s.mergeNote 0 (collected s.template excerpts))

/-- The state of a search through files that has found some excerpts. -/
structure Holds (s : Search) (files : List (List Char × Reading)) (excerpts : List Excerpt)
    (p : Progress) : Prop where
  settings : p.found.settings = none
  diagnostics : p.found.diagnostics = collected s.template excerpts
  logs : ∀ line ∈ p.log, s.Logs files line

theorem holds_start (s : Search) (files : List (List Char × Reading)) : s.Holds files [] {} where
  settings := rfl
  diagnostics := rfl
  logs _ h := (List.not_mem_nil h).elim

theorem Holds.note (h : s.Holds files excerpts p) {line : List Char} (hline : s.Logs files line) :
    s.Holds files excerpts (p.note line) where
  settings := h.settings
  diagnostics := h.diagnostics
  logs := by
    intro other hother
    rcases List.mem_append.mp hother with hother | hother
    · exact h.logs other hother
    · rw [List.mem_singleton.mp hother]
      exact hline

theorem Holds.addMatch (h : s.Holds files excerpts p) (path source : List Char)
    (span : Nat × Nat) :
    s.Holds files
      (excerpts ++ [(Excerpt.ofMatch source span.1 span.2 path s.comment).toOwned])
      (s.addMatch path source p span) := by
  let e := (Excerpt.ofMatch source span.1 span.2 path s.comment).toOwned
  have hissued : s.Holds files (excerpts ++ [e])
      { p with found := p.found.issue (s.template.replaceExcerpt e) } := by
    refine ⟨h.settings, ?_, h.logs⟩
    rw [Collector.issue, h.settings, h.diagnostics]
    exact combine_collected s.template excerpts e
  unfold Search.addMatch
  dsimp only
  split
  · rename_i index hindex
    split
    · rename_i hverbose
      rw [h.settings, h.diagnostics] at hindex
      have hmerged : s.Logs files (s.mergeNote index
          (p.found.issue (s.template.replaceExcerpt e)).diagnostics) := by
        rw [mergeIndex?_collected hindex, hissued.diagnostics]
        exact .merged hverbose _
      exact hissued.note hmerged
    · exact hissued
  · exact hissued

theorem Holds.addMatches (h : s.Holds files excerpts p) (path source : List Char)
    (spans : List (Nat × Nat)) :
    s.Holds files
      (excerpts ++ spans.map fun span =>
        (Excerpt.ofMatch source span.1 span.2 path s.comment).toOwned)
      (spans.foldl (s.addMatch path source) p) := by
  induction spans generalizing excerpts p with
  | nil => simpa using h
  | cons span spans ih =>
    have hrest := ih (h.addMatch path source span)
    rw [List.append_assoc, List.singleton_append] at hrest
    exact hrest

theorem Holds.addFile (h : s.Holds files excerpts p) {file : List Char × Reading}
    (hfile : file ∈ files) :
    s.Holds files
      (excerpts ++ (matchesIn s.pattern file).map fun m => (m.excerpt s.comment).toOwned)
      (s.addFile p file) := by
  obtain ⟨path, reading⟩ := file
  have hskip : ∀ reason, reading.text? = none → s.Holds files
      (excerpts ++ (matchesIn s.pattern (path, reading)).map fun m => (m.excerpt s.comment).toOwned)
      (p.note (skipNote path reason)) := by
    intro reason htext
    rw [matchesIn_of_none htext, List.map_nil, List.append_nil]
    exact h.note (.skipped hfile htext reason)
  cases reading with
  | refused reason => exact hskip reason rfl
  | bytes content =>
    rw [Search.addFile]
    dsimp only
    cases hdecode : Utf8.decode? content with
    | none =>
      apply hskip
      rw [Reading.text?, hdecode]
      rfl
    | some source =>
      have htext : (Reading.bytes content).text? = some (unifyBreaks source) := by
        rw [Reading.text?, hdecode]
        rfl
      have hadded := h.addMatches path (unifyBreaks source)
        (s.pattern.findAll (unifyBreaks source))
      rw [matchesIn_of_some htext, List.map_map]
      dsimp only [addText]
      split
      · rename_i hverbose
        exact hadded.note (.counted hverbose hfile htext)
      · exact hadded

theorem Holds.addFiles (h : s.Holds files excerpts p) {rest : List (List Char × Reading)}
    (hrest : ∀ file ∈ rest, file ∈ files) :
    s.Holds files
      (excerpts ++ (rest.flatMap (matchesIn s.pattern)).map fun m =>
        (m.excerpt s.comment).toOwned)
      (rest.foldl s.addFile p) := by
  -- on the files still to come; the lines logged may name any of `files`
  induction rest generalizing excerpts p with
  | nil => simpa using h
  | cons file rest ih =>
    rw [List.forall_mem_cons] at hrest
    have hadded := ih (h.addFile hrest.1) hrest.2
    rw [List.append_assoc, ← List.map_append, ← List.flatMap_cons] at hadded
    exact hadded

end Search

/-- What a search that found some excerpts leaves behind. The error output has the report after the
log, unless the output has it as markup. -/
theorem Search.Holds.outcome_eq {s : Search} {files : List (List Char × Reading)} {p : Progress}
    {excerpts : List Excerpt} (h : s.Holds files excerpts p) (html : Bool) (options : Options) :
    p.outcome html options =
      { exitCode := if excerpts.isEmpty || !s.template.kind.isBlocking then 0 else 1
        output := if html then
          (collected s.template excerpts).flatMap (·.toHtml (none : Option Unit) options) ++ ['\n']
          else []
        errorOutput := logText p.log ++ if html then [] else
          (collected s.template excerpts).flatMap (·.render (none : Option Unit) options) } := by
  have herrors : p.found.hasErrors = (!excerpts.isEmpty && s.template.kind.isBlocking) := by
    rw [Collector.hasErrors, h.diagnostics, collected]
    cases excerpts with
    | nil => rfl
    | cons e rest => exact Bool.or_false _
  have hreport : p.found.report options =
      (collected s.template excerpts).flatMap (·.render (none : Option Unit) options) := by
    rw [Collector.report, h.settings, h.diagnostics, collected]
    cases excerpts <;> rfl
  have hcode : (if p.found.hasErrors = true then 1 else 0) =
      if (excerpts.isEmpty || !s.template.kind.isBlocking) = true then 0 else 1 := by
    rw [herrors]
    cases excerpts.isEmpty <;> cases s.template.kind.isBlocking <;> rfl
  unfold Progress.outcome
  dsimp only
  rw [hcode, hreport, h.diagnostics]
  cases html
  · rfl
  · simp

structure Arguments.Gives (a : Arguments) (path pattern title details : List Char)
    (comment : Option (List Char)) (suggestions : List (List Char)) : Prop where
  input : a.input = some path
  pattern : a.pattern = some (.given pattern)
  title : a.title = .given title
  details : a.details = .given details
  comment : a.comment = comment.map .given
  suggestions : a.suggestions = suggestions.map .given

def Arguments.search (a : Arguments) (pattern : Pattern) : Search :=
  { pattern, template := template a, loggedTitle := a.title.logged
    comment := a.comment.bind (·.toOption), verbose := a.verbose }

namespace Arguments.Gives
variable {a : Arguments} {path written title details : List Char} {comment : Option (List Char)}
  {suggestions : List (List Char)} (h : a.Gives path written title details comment suggestions)
include h

theorem template_eq : template a =
    { kind := if a.warning then .warning else .error, title, details, suggestions } := by
  have hshown : (suggestions.map Value.given).map Value.shown = suggestions := by
    rw [List.map_map]
    exact List.map_id _
  rw [template, h.title, h.details, h.suggestions, hshown]
  rfl

theorem comment_eq : a.comment.bind (·.toOption) = comment := by
  rw [h.comment]
  cases comment <;> rfl

theorem missingUse?_eq (found : List (Diagnostic Severity)) : missingUse? a found = none := by
  have hsuggestions : a.suggestions.any (·.isSeparator) = false := by
    rw [h.suggestions, List.any_map]
    exact List.any_eq_false.mpr fun _ _ => Bool.false_ne_true
  have hcomment : (a.comment == some .separator) = false := by
    rw [h.comment]
    cases comment <;> rfl
  have htitle : a.title.isSeparator = false := by
    rw [h.title]
    rfl
  have hdetails : a.details.isSeparator = false := by
    rw [h.details]
    rfl
  simp [missingUse?, hsuggestions, hcomment, htitle, hdetails]

theorem scan_eq (pattern : Pattern) (options : Options) (files : List (List Char × Reading)) :
    scan a pattern options files =
      .ok ((files.foldl (a.search pattern).addFile {}).outcome a.html options) := by
  unfold scan
  dsimp only
  rw [h.missingUse?_eq]
  rfl

theorem perform_eq {find : List Char → Input} {env : Environment} {characters : CharacterNames}
    {pattern : Pattern} {remarks : List Pattern.Remark} {options : Options}
    (hfound : find path ≠ .missing)
    (hpattern : Pattern.read characters written = (.ok pattern, remarks))
    (hoptions : reportOptions a env = .ok options) (site : Site) :
    perform a find env characters site =
      (scan a pattern options (filesToScan path (find path))).map
        (·.after (site.notices remarks)) := by
  unfold perform
  rw [h.input, h.pattern]
  dsimp only [Option.getD_some, Option.bind_some, Value.toOption]
  rw [hpattern, hoptions]
  cases hinput : find path with
  | missing => exact absurd hinput hfound
  | file reading => rfl
  | folder files => rfl

end Arguments.Gives

end SourceReport.Command

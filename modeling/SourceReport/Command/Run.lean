import SourceReport.Collector
import SourceReport.Command.Arguments
import SourceReport.Command.FileTree
import SourceReport.Command.Site
import SourceReport.Excerpt.Make
import SourceReport.Markup.Diagnostic
import SourceReport.Pattern.Matcher
import SourceReport.Pattern.Reader
import SourceReport.Text.Order
import SourceReport.Text.Utf8

namespace SourceReport.Command
open Text

structure Outcome where
  exitCode : Nat
  output : List Char := []
  errorOutput : List Char := []

def Outcome.after (o : Outcome) (written : List Char) : Outcome :=
  { o with errorOutput := written ++ o.errorOutput }

inductive Use where
  | columns
  | pattern
  | comment
  | suggestions
  | details
  | markup
  deriving DecidableEq

inductive Fault where
  | options (e : Options.Error)
  | pattern (cause : Pattern.Cause)
  | noValue (use : Use)

def Fault.message : Fault → List Char
  | options e => e.message
  | pattern cause => cause.message
  | noValue .columns => "no value for the number of columns".toList
  | noValue .pattern => "no value for the pattern".toList
  | noValue .comment => "no value for the comment".toList
  | noValue .suggestions => "no value for a suggestion".toList
  | noValue .details => "no value for the description".toList
  | noValue .markup => "no value for a text of the markup".toList

structure Search where
  pattern : Pattern
  template : Diagnostic Severity
  loggedTitle : List Char
  comment : Option (List Char)
  verbose : Bool

structure Progress where
  found : Collector Severity Unit := {}
  log : List (List Char) := []

namespace Progress

def note (p : Progress) (line : List Char) : Progress := { p with log := p.log ++ [line] }

end Progress

namespace Search

def mergeNote (s : Search) (index : Nat) (merged : List (Diagnostic Severity)) : List Char :=
  let count := (merged[index]?.map (·.excerpts.length)).getD 0
  "DEBUG custom_error.combine: merged ".toList ++ s.loggedTitle ++
    " into diagnostic #".toList ++ decimal index ++ " (".toList ++ decimal count ++
    " contexts)".toList

def addMatch (s : Search) (path source : List Char) (p : Progress) (span : Nat × Nat) : Progress :=
  let e := Excerpt.ofMatch source span.1 span.2 path s.comment
  let d := s.template.replaceExcerpt e.toOwned
  let found := p.found.issue d
  let p' := { p with found }
  match Diagnostic.mergeIndex? p.found.settings p.found.diagnostics d with
  | some index => if s.verbose then p'.note (s.mergeNote index found.diagnostics) else p'
  | none => p'

def skipNote (path reason : List Char) : List Char :=
  "WARNING custom_error: skipping ".toList ++ path ++ ": ".toList ++ reason

def countNote (path : List Char) (count : Nat) : List Char :=
  "INFO custom_error: ".toList ++ path ++ ": ".toList ++ decimal count ++ " match(es)".toList

def addText (s : Search) (path source : List Char) (p : Progress) : Progress :=
  let spans := s.pattern.findAll source
  let p := spans.foldl (s.addMatch path source) p
  if s.verbose then p.note (countNote path spans.length) else p

/-- Reports the matches in a file. A file that holds no text, or cannot be read, is passed over. -/
def addFile (s : Search) (p : Progress) (file : List Char × Reading) : Progress :=
  match file.2 with
  | .refused reason => p.note (skipNote file.1 reason)
  | .bytes content =>
    match Utf8.decode? content with
    | none => p.note (skipNote file.1 "not valid UTF-8".toList)
    | some source => s.addText file.1 (unifyBreaks source) p

end Search

def entryPath (folder name : List Char) : List Char :=
  if folder.getLast? == some '/' then folder ++ name else folder ++ '/' :: name

/-- The files to look through, in order: the input itself, or the files in it by their names. -/
def filesToScan (path : List Char) : Input → List (List Char × Reading)
  | .missing => []
  | .file reading => [(path, reading)]
  | .folder files =>
    (files.mergeSort fun a b => codeLe a.1 b.1).map fun (name, reading) =>
      (entryPath path name, reading)

def reportOptions (a : Arguments) (env : Environment) : Except Options.Error Options := do
  let o ← Options.ofEnvironment env
  let o := if a.ascii then o.withAscii true else o
  let o := if a.colour then o.withColour true else o
  match a.width.bind (·.toOption) with
  | none => return o
  | some columns => o.withMaxColumns columns

def template (a : Arguments) : Diagnostic Severity :=
  let severity : Severity := if a.warning then .warning else .error
  (Diagnostic.small severity a.title.shown a.details.shown).addSuggestions
    (a.suggestions.map (·.shown))

/-- Whether the comment of a match is drawn beside a mark: the match lies on one line, and that
line has characters. -/
def drawsComment (e : Excerpt) : Bool := !e.text.isEmpty && !e.highlights.isEmpty

/-- The first use of a value that is not there in reports of diagnostics. A title, and a suggestion
that stands alone, are shown in text even so; in markup a comment may be missing. -/
def missingUse? (a : Arguments) (found : List (Diagnostic Severity)) : Option Use :=
  if found.isEmpty then none
  else if a.html then
    if (a.title :: a.details :: a.suggestions).any (·.isSeparator) then some .markup else none
  else if a.comment == some .separator && found.any (·.excerpts.any drawsComment) then
    some .comment
  else if 1 < a.suggestions.length && a.suggestions.any (·.isSeparator) then some .suggestions
  else if a.details.isSeparator then some .details
  else none

def logText (lines : List (List Char)) : List Char := lines.flatMap (· ++ ['\n'])

/-- What the command leaves behind after a search. Text goes where the log goes, markup to the
output. -/
def Progress.outcome (p : Progress) (html : Bool) (options : Options) : Outcome :=
  let exitCode := if p.found.hasErrors then 1 else 0
  if html then
    { exitCode, errorOutput := logText p.log
      output := p.found.diagnostics.flatMap (·.toHtml none options) ++ ['\n'] }
  else { exitCode, errorOutput := logText p.log ++ p.found.report options }

def scan (a : Arguments) (pattern : Pattern) (options : Options)
    (files : List (List Char × Reading)) : Except Fault Outcome :=
  let search : Search :=
    { pattern, template := template a, loggedTitle := a.title.logged
      comment := a.comment.bind (·.toOption), verbose := a.verbose }
  let p := files.foldl search.addFile {}
  match missingUse? a p.found.diagnostics with
  | some use => .error (.noValue use)
  | none => .ok (p.outcome a.html options)

/-- Does what the arguments ask. The input has to exist before the pattern is looked at, and the
pattern has to be one before the environment is. -/
def perform (a : Arguments) (find : List Char → Input) (env : Environment)
    (characters : CharacterNames) (site : Site) : Except Fault Outcome :=
  let path := a.input.getD []
  match find path with
  | .missing =>
    .ok { exitCode := 2, errorOutput := "Error: file not found: ".toList ++ path ++ ['\n'] }
  | input =>
    match a.pattern.bind (·.toOption) with
    | none => .error (.noValue .pattern)
    | some written =>
      let (result, remarks) := Pattern.read characters written
      match result with
      | .error e =>
        if e.cause.isBeyond then .error (.pattern e.cause)
        else
          let message := "Error: invalid pattern: ".toList ++ e.message written ++ ['\n']
          .ok { exitCode := 2, errorOutput := site.notices remarks ++ message }
      | .ok pattern =>
        match reportOptions a env with
        | .error e => .error (.options e)
        | .ok options =>
          (scan a pattern options (filesToScan path input)).map (·.after (site.notices remarks))

/-- Runs the command. A pattern may name the characters that are known by their names. -/
def run (arguments : List (List Char)) (find : List Char → Input) (env : Environment)
    (characters : CharacterNames := .ascii) (site : Site := {}) : Except Fault Outcome :=
  match Arguments.read arguments with
  | .error .helpAsked => .ok { exitCode := 0, output := help }
  | .error (.refused e) => .ok { exitCode := 2, errorOutput := e.report }
  | .error .noWidth => .error (.noValue .columns)
  | .ok a => perform a find env characters site

end SourceReport.Command

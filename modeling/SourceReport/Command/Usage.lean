import SourceReport.Text.Decimal
import SourceReport.Text.Quoted

namespace SourceReport.Command
open Text

inductive Setting where
  | help
  | pattern
  | message
  | description
  | comment
  | suggest
  | warning
  | ascii
  | colour
  | width
  | html
  | verbose
  deriving DecidableEq

structure Name where
  written : List Char
  setting : Setting

def names : List Name :=
  [⟨"-h".toList, .help⟩, ⟨"--help".toList, .help⟩, ⟨"-e".toList, .pattern⟩,
    ⟨"--pattern".toList, .pattern⟩, ⟨"-m".toList, .message⟩, ⟨"--message".toList, .message⟩,
    ⟨"-d".toList, .description⟩, ⟨"--description".toList, .description⟩,
    ⟨"-c".toList, .comment⟩, ⟨"--comment".toList, .comment⟩, ⟨"-s".toList, .suggest⟩,
    ⟨"--suggest".toList, .suggest⟩, ⟨"-w".toList, .warning⟩, ⟨"--warning".toList, .warning⟩,
    ⟨"--ascii".toList, .ascii⟩, ⟨"--colour".toList, .colour⟩, ⟨"--color".toList, .colour⟩,
    ⟨"--width".toList, .width⟩, ⟨"--html".toList, .html⟩, ⟨"-v".toList, .verbose⟩,
    ⟨"--verbose".toList, .verbose⟩]

namespace Setting

def takesValue : Setting → Bool
  | pattern | message | description | comment | suggest | width => true
  | _ => false

def allNames (s : Setting) : List Char :=
  List.intercalate ['/'] ((names.filter fun n => decide (n.setting = s)).map (·.written))

end Setting

def program : List Char := "custom-error".toList

def inputName : List Char := "INPUT".toList

def usage : List Char := (
  "usage: custom-error [-h] -e PATTERN [-m MESSAGE] [-d DESCRIPTION] [-c COMMENT]\n" ++
  "                    [-s SUGGEST] [-w] [--ascii] [--colour] [--width WIDTH]\n" ++
  "                    [--html] [-v]\n" ++
  "                    INPUT\n").toList

def help : List Char := usage ++ (
  "\n" ++
  "Report every match of a pattern as a diagnostic.\n" ++
  "\n" ++
  "positional arguments:\n" ++
  "  INPUT                 input file or folder\n" ++
  "\n" ++
  "options:\n" ++
  "  -h, --help            show this help message and exit\n" ++
  "  -e PATTERN, --pattern PATTERN\n" ++
  "                        regular expression to report\n" ++
  "  -m MESSAGE, --message MESSAGE\n" ++
  "                        title of the diagnostic\n" ++
  "  -d DESCRIPTION, --description DESCRIPTION\n" ++
  "                        long description of the diagnostic\n" ++
  "  -c COMMENT, --comment COMMENT\n" ++
  "                        comment next to every highlight\n" ++
  "  -s SUGGEST, --suggest SUGGEST\n" ++
  "                        suggestion (repeatable)\n" ++
  "  -w, --warning         report warnings instead of errors\n" ++
  "  --ascii               only use ASCII characters\n" ++
  "  --colour, --color     colour the output\n" ++
  "  --width WIDTH         maximum number of columns\n" ++
  "  --html                print HTML instead of text\n" ++
  "  -v, --verbose         log progress to stderr\n").toList

inductive UsageError where
  | ambiguous (written : List Char) (candidates : List (List Char))
  | missingValue (setting : Setting)
  | needlessValue (setting : Setting) (value : List Char)
  | notANumber (setting : Setting) (value : List Char)
  | missing (arguments : List (List Char))
  | unrecognized (arguments : List (List Char))
  | narrow (columns : Int)
  deriving DecidableEq

def listed (separator : String) (texts : List (List Char)) : List Char :=
  List.intercalate separator.toList texts

def UsageError.message : UsageError → List Char
  | ambiguous written candidates =>
    "ambiguous option: ".toList ++ written ++ " could match ".toList ++ listed ", " candidates
  | missingValue s => "argument ".toList ++ s.allNames ++ ": expected one argument".toList
  | needlessValue s value =>
    "argument ".toList ++ s.allNames ++ ": ignored explicit argument ".toList ++ quoted value
  | notANumber s value =>
    "argument ".toList ++ s.allNames ++ ": invalid int value: ".toList ++ quoted value
  | missing arguments =>
    "the following arguments are required: ".toList ++ listed ", " arguments
  | unrecognized arguments => "unrecognized arguments: ".toList ++ listed " " arguments
  | narrow columns => "--width must be at least 20, got ".toList ++ decimal columns

def UsageError.report (e : UsageError) : List Char :=
  usage ++ program ++ ": error: ".toList ++ e.message ++ ['\n']

end SourceReport.Command

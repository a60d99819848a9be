import SourceReport.Grammar.Failure
import SourceReport.Json
import SourceReport.Text.CharClass.Numbers

namespace SourceReport.Grammar
open Text

inductive Value where
  | datum (value : Json)
  | list (values : List Value)
  | located (value : Located Value)

def Value.texts : Value → List (List Char)
  | list values => values.filterMap fun
    | datum (.str s) => some s
    | _ => none
  | datum (.str s) => [s]
  | _ => []

inductive Expression where
  | string (s : List Char)
  | charFrom (chars : List Char)
  | anyChar
  | letter
  | digit
  | eof
  | success (value : Json)
  | failing (expected : List Char)
  | seq (parts : List Expression)
  | alt (choices : List Expression)
  | times (part : Expression) (least : Nat) (most : Option Nat)
  | optional (part : Expression)
  | sepBy (part separator : Expression)
  | keepRight (first second : Expression)
  | keepLeft (first second : Expression)
  | concat (part : Expression)
  | describe (part : Expression) (expected : List Char)
  | located (part : Expression)
  | rule (name : List Char)

namespace Expression

def text (s : List Char) : Value := .datum (.str s)

def separated (part separator : Parser Value) : Parser (List Value) :=
  .alt
    [((part.times 1 (some 1)).pair (((separator.pair part).map (·.2)).times 0 none)).map
        fun (first, rest) => first ++ rest,
      .pure []]

mutual

def parser (rules : List Char → Parser Value) : Expression → Parser Value
  | string s => (Parser.string s).map text
  | charFrom chars => (Parser.char ('[' :: chars ++ [']']) chars.contains).map fun c => text [c]
  | anyChar => (Parser.char "any character".toList fun _ => true).map fun c => text [c]
  | letter => (Parser.char "a letter".toList isLetter).map fun c => text [c]
  | digit => (Parser.char "a digit".toList isDigit).map fun c => text [c]
  | eof => Parser.eof.map fun _ => .datum .null
  | success value => .pure (.datum value)
  | failing expected => .fail expected
  | seq parts => (Parser.seq (parsers rules parts)).map .list
  | alt choices => .alt (parsers rules choices)
  | times part least most => ((parser rules part).times least most).map .list
  | optional part =>
    ((parser rules part).times 0 (some 1)).map fun values => values.headD (.datum .null)
  | sepBy part separator => (separated (parser rules part) (parser rules separator)).map .list
  | keepRight first second => ((parser rules first).pair (parser rules second)).map (·.2)
  | keepLeft first second => ((parser rules first).pair (parser rules second)).map (·.1)
  | concat part => (parser rules part).map fun v => text v.texts.flatten
  | describe part expected => (parser rules part).describe expected
  | located part => (parser rules part).located.map .located
  | rule name => rules name

def parsers (rules : List Char → Parser Value) : List Expression → List (Parser Value)
  | [] => []
  | e :: es => parser rules e :: parsers rules es

end

/-- The parsers of rules that use each other at most `depth` deep. -/
def ruleParser (rules : List (List Char × Expression)) : (depth : Nat) → List Char → Parser Value
  | 0, name => .fail name
  | depth + 1, name =>
    match rules.lookup name with
    | none => .fail name
    | some e => parser (ruleParser rules depth) e

/-- Reads the whole of a source. Between two characters no rule is used twice unless it goes on for
ever, so rules and characters bound the depth. -/
def parse (e : Expression) (rules : List (List Char × Expression)) (source : List Char) :
    Except Failure Value :=
  (e.parser (ruleParser rules ((rules.length + 1) * (source.length + 2)))).parse source

end Expression

end SourceReport.Grammar

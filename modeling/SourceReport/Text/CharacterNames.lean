namespace SourceReport.Text

/-- The characters that have names, each by its name. -/
abbrev CharacterNames := List Char → Option Char

namespace CharacterNames

def signs : List (String × Char) :=
  [("SPACE", ' '), ("EXCLAMATION MARK", '!'), ("QUOTATION MARK", '\x22'), ("NUMBER SIGN", '#'),
   ("DOLLAR SIGN", '$'), ("PERCENT SIGN", '%'), ("AMPERSAND", '&'), ("APOSTROPHE", '\x27'),
   ("LEFT PARENTHESIS", '('), ("RIGHT PARENTHESIS", ')'), ("ASTERISK", '*'), ("PLUS SIGN", '+'),
   ("COMMA", ','), ("HYPHEN-MINUS", '-'), ("FULL STOP", '.'), ("SOLIDUS", '/'), ("COLON", ':'),
   ("SEMICOLON", ';'), ("LESS-THAN SIGN", '<'), ("EQUALS SIGN", '='), ("GREATER-THAN SIGN", '>'),
   ("QUESTION MARK", '?'), ("COMMERCIAL AT", '@'), ("LEFT SQUARE BRACKET", '['),
   ("REVERSE SOLIDUS", '\\'), ("RIGHT SQUARE BRACKET", ']'), ("CIRCUMFLEX ACCENT", '^'),
   ("LOW LINE", '_'), ("GRAVE ACCENT", '\x60'), ("LEFT CURLY BRACKET", '\x7b'),
   ("VERTICAL LINE", '|'), ("RIGHT CURLY BRACKET", '\x7d'), ("TILDE", '~')]

def digits : List (String × Char) :=
  [("ZERO", '0'), ("ONE", '1'), ("TWO", '2'), ("THREE", '3'), ("FOUR", '4'), ("FIVE", '5'),
   ("SIX", '6'), ("SEVEN", '7'), ("EIGHT", '8'), ("NINE", '9')]

def letter? (words : String) (name : List Char) : Option Char :=
  match words.toList.isPrefixOf? name with
  | some [c] => if c.isUpper then some c else none
  | _ => none

/-- The names of the printable characters of ASCII, in letters of any case. -/
def ascii : CharacterNames := fun name =>
  let name := name.map Char.toUpper
  let named (table : List (String × Char)) (rest : List Char) :=
    (table.find? (·.1.toList == rest)).map (·.2)
  (named signs name).or <| (("DIGIT ".toList.isPrefixOf? name).bind (named digits)).or <|
    (letter? "LATIN CAPITAL LETTER " name).or <|
      (letter? "LATIN SMALL LETTER " name).map Char.toLower

end CharacterNames

end SourceReport.Text

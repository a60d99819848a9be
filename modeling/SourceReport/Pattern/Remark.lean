import SourceReport.Text.Decimal
import SourceReport.Text.Quoted

namespace SourceReport.Pattern
open Text

/-- What is noticed about a pattern that is one, and may be meant to be another. -/
inductive Remark where
  | nestedSet (position : Nat)
  | setOperation (sign : Char) (position : Nat)
  | groupNumber (written : List Char) (position : Nat)
  deriving DecidableEq

namespace Remark

def operationName (sign : Char) : List Char :=
  if sign = '-' then "difference".toList
  else if sign = '&' then "intersection".toList
  else if sign = '~' then "symmetric difference".toList
  else "union".toList

def message : Remark → List Char
  | nestedSet position => "Possible nested set at position ".toList ++ decimal position
  | setOperation sign position =>
    "Possible set ".toList ++ operationName sign ++ " at position ".toList ++ decimal position
  | groupNumber written position =>
    "bad character in group name ".toList ++ quoted written ++ " at position ".toList ++
      decimal position

/-- Whether the remark is about what will be refused, and not about what will change its meaning. -/
def isOutdated : Remark → Bool
  | groupNumber _ _ => true
  | nestedSet _ | setOperation _ _ => false

end Remark

end SourceReport.Pattern

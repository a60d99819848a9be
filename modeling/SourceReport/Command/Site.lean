import SourceReport.Pattern.Remark

namespace SourceReport.Command
open Text

/-- Where a pattern is read: the file and the row of the program that does, and what stands there.
Where that is not known it is said to be the system. -/
structure Site where
  file : List Char := "sys".toList
  row : Nat := 1
  code : List Char := []
  /-- Whether the file is the one that was started. -/
  isMain : Bool := false

namespace Site

def category (r : Pattern.Remark) : List Char :=
  if r.isOutdated then "DeprecationWarning".toList else "FutureWarning".toList

def notice (s : Site) (r : Pattern.Remark) : List Char :=
  s.file ++ ':' :: decimal s.row ++ ": ".toList ++ category r ++ ": ".toList ++ r.message ++
    ['\n'] ++ if s.code.isEmpty then [] else "  ".toList ++ s.code ++ ['\n']

/-- The notices that remarks give rise to. Those on what is outdated are for who wrote the program,
and so are given in the file that was started only. -/
def notices (s : Site) (remarks : List Pattern.Remark) : List Char :=
  (remarks.filter fun r => s.isMain || !r.isOutdated).flatMap s.notice

end Site

end SourceReport.Command

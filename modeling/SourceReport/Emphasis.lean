namespace SourceReport

inductive Emphasis where
  | plain
  /-- Red: the label of what blocks. -/
  | alarm
  /-- Blue: the label of what does not block, and suggestions. -/
  | advice
  /-- Green: versions. -/
  | version
  /-- Yellow: causes. -/
  | cause
  deriving DecidableEq

namespace Emphasis

def sequence : Emphasis → List Char
  | plain => []
  | alarm => ['\x1b', '[', '3', '1', 'm']
  | advice => ['\x1b', '[', '3', '4', 'm']
  | version => ['\x1b', '[', '3', '2', 'm']
  | cause => ['\x1b', '[', '3', '3', 'm']

def reset : List Char := ['\x1b', '[', '0', 'm']

/-- A text in its colour. Without colours, and for plain or empty text, it stays as it is. -/
def decorate (role : Emphasis) (enabled : Bool) (s : List Char) : List Char :=
  if !enabled || role == plain || s.isEmpty then s else role.sequence ++ s ++ reset

@[simp] theorem decorate_false (role : Emphasis) (s : List Char) : role.decorate false s = s := rfl

end Emphasis

end SourceReport

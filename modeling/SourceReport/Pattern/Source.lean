import SourceReport.Pattern.Error
import SourceReport.Pattern.Remark
import SourceReport.Pattern.Width
import SourceReport.Text.CharacterNames

namespace SourceReport.Pattern
open Text

/-- A character of a pattern, with a backslash before it or without. -/
structure Token where
  char : Char
  escaped : Bool
  position : Nat

namespace Token

def written (t : Token) : List Char := if t.escaped then ['\\', t.char] else [t.char]

def isPlain (t : Token) (c : Char) : Bool := !t.escaped && t.char == c

def isPlainIn (t : Token) (p : Char → Bool) : Bool := !t.escaped && p t.char

end Token

/-- The tokens of a pattern; the place of a backslash that ends it comes with them. -/
def tokens (position : Nat) : List Char → List Token × Option Nat
  | [] => ([], none)
  | ['\\'] => ([], some position)
  | '\\' :: c :: rest =>
    let (ts, dangling) := tokens (position + 2) rest
    (⟨c, true, position⟩ :: ts, dangling)
  | c :: rest =>
    let (ts, dangling) := tokens (position + 1) rest
    (⟨c, false, position⟩ :: ts, dangling)

/-- A pattern that is being read: what is left of it, and what the part before has brought up. -/
structure Source where
  tokens : List Token
  dangling : Option Nat
  length : Nat
  /-- How many characters each group may match, in order; nothing is known of an open one. -/
  groups : List (Option Bounds) := []
  names : List (List Char × Nat) := []
  /-- How many groups were there when the look behind began that is being read. -/
  lookBehind : Option Nat := none
  conditions : List (Nat × Nat) := []
  flags : List Char := []
  characters : CharacterNames
  remarks : List Remark := []

namespace Source

def isClosed (s : Source) (number : Nat) : Bool :=
  0 < number && (s.groups[number - 1]?).any (·.isSome)

def groupWidth (s : Source) (number : Nat) : Bounds :=
  ((s.groups[number - 1]?).getD none).getD (.exactly 0)

end Source

/-- What is remarked before an error is kept. -/
abbrev Reader := ExceptT Error (StateM Source)

namespace Reader

def position : Reader Nat := do
  let s ← get
  return (s.tokens.head?.map (·.position)).getD s.length

def failBack {α : Type} (cause : Cause) (back : Nat) : Reader α := do
  throw { cause, position := some ((← position) - back) }

def fail {α : Type} (cause : Cause) : Reader α := failBack cause 0

def failAt {α : Type} (cause : Cause) (position : Nat) : Reader α :=
  throw { cause, position := some position }

def remark (r : Remark) : Reader Unit := modify fun s => { s with remarks := s.remarks ++ [r] }

/-- Goes on with the tokens given. The token after those passed has to be a whole one. -/
def goOn (rest : List Token) : Reader Unit := do
  match rest, (← get).dangling with
  | [], some place => failAt .danglingEscape place
  | rest, _ => modify ({ · with tokens := rest })

def next? : Reader (Option Token) := return (← get).tokens.head?

def take? : Reader (Option Token) := do
  match (← get).tokens with
  | [] => return none
  | t :: rest => goOn rest; return some t

def isNext (c : Char) : Reader Bool := return (← next?).any (·.isPlain c)

def skip (c : Char) : Reader Bool := do
  match (← get).tokens with
  | t :: rest => if t.isPlain c then goOn rest; return true else return false
  | [] => return false

def takeAtMost (count : Nat) (p : Char → Bool) : Reader (List Char) := do
  let ts := (← get).tokens
  let taken := (ts.take count).takeWhile (·.isPlainIn p)
  unless taken.isEmpty do goOn (ts.drop taken.length)
  return taken.map (·.char)

def takeWhile (p : Char → Bool) : Reader (List Char) := do
  takeAtMost (← get).tokens.length p

/-- Passes all tokens up to a plain character and that one too, and gives what the others are
written with, and whether the character was found. -/
def takeUntil (stop : Char) : Reader (List Char × Bool) := do
  let (passed, rest) := (← get).tokens.span (!·.isPlain stop)
  goOn rest.tail
  return (passed.flatMap (·.written), !rest.isEmpty)

def takeName (stop : Char) : Reader (List Char) := do
  let (name, found) ← takeUntil stop
  if !found then
    if name.isEmpty then fail (.group .missingName)
    failBack (.group (.unfinishedName stop)) name.length
  if name.isEmpty then failBack (.group .missingName) 1
  return name

def openGroup (name : Option (List Char)) : Reader Nat := do
  let s ← get
  let number := s.groups.length + 1
  if let some name := name then
    if let some taken := s.names.lookup name then
      failBack (.group (.takenName name number taken)) (name.length + 1)
    modify fun s => { s with names := (name, number) :: s.names }
  modify fun s => { s with groups := s.groups ++ [none] }
  return number

def closeGroup (number : Nat) (body : Pattern) : Reader Unit :=
  modify fun s => { s with groups := s.groups.set (number - 1) (some (body.width s.groupWidth)) }

/-- Within a look behind, refuses to refer to a group that is open or has begun there. -/
def checkLookBehind (number : Nat) : Reader Unit := do
  let s ← get
  if let some count := s.lookBehind then
    if !s.isClosed number then fail (.group .stillOpen)
    if count < number then fail (.group .sameLookBehind)

end Reader

end SourceReport.Pattern

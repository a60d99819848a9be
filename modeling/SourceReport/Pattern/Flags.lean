import SourceReport.Pattern.Source
import SourceReport.Text.CharClass.Letters

namespace SourceReport.Pattern
open Text Reader

structure Flags where
  ignoreCase : Bool := false
  multiline : Bool := true
  dotAll : Bool := false
  verbose : Bool := false
  /-- Classes of characters, and letters whose case is ignored, are those of ASCII. -/
  ascii : Bool := false

def Flags.turn (f : Flags) (on off : List Char) : Flags :=
  let turned (c : Char) (old : Bool) := (old || on.contains c) && !off.contains c
  { ignoreCase := turned 'i' f.ignoreCase
    multiline := turned 'm' f.multiline
    dotAll := turned 's' f.dotAll
    verbose := turned 'x' f.verbose
    ascii := (f.ascii && !on.contains 'u') || on.contains 'a' }

def flagLetters : List Char := ['a', 'i', 'L', 'm', 's', 't', 'u', 'x']

/-- The letters of flags that say what the characters are, of which one holds at a time. -/
def typeLetters : List Char := ['a', 'L', 'u']

/-- Reads the letter of a flag where one has to be, or one of the characters that end a run of
them. Other letters are unknown flags. -/
def takeFlag (stops : List Char) (cause : FlagCause) : Reader Char := do
  match ← take? with
  | none => fail (.flags cause)
  | some t =>
    if t.isPlainIn (flagLetters ++ stops).contains then return t.char
    failBack (.flags (if t.isPlainIn isLetter then .unknown else cause)) t.written.length

def readOn : (fuel : Nat) → (letter : Char) → (on : List Char) → Reader (List Char × Char)
  | 0, _, _ => fail (.flags .unfinished)
  | fuel + 1, letter, on => do
    if letter == 'L' then fail (.flags .locale)
    let on := letter :: on
    if typeLetters.contains letter && on.any (fun d => typeLetters.contains d && d != letter) then
      fail (.flags .incompatible)
    let c ← takeFlag [')', '-', ':'] .unfinished
    if flagLetters.contains c then readOn fuel c on else return (on, c)

def readOff : (fuel : Nat) → (letter : Char) → (off : List Char) → Reader (List Char)
  | 0, _, _ => fail (.flags .noColon)
  | fuel + 1, letter, off => do
    if typeLetters.contains letter then fail (.flags .typeTurnedOff)
    let off := letter :: off
    let c ← takeFlag [':'] .noColon
    if flagLetters.contains c then readOff fuel c off else return off

def readTurnedOff : Reader (List Char) := do
  let letter ← takeFlag [] .nothingTurnedOff
  readOff ((← get).tokens.length + 1) letter []

inductive FlagChange where
  | whole (on : List Char)
  | scoped (on off : List Char)

/-- Reads flags, the first character of which is given: a letter, or the sign that turns off. -/
def readFlags (first : Char) : Reader FlagChange := do
  let length := (← get).tokens.length
  let (on, stop) ← if first == '-' then pure ([], '-') else readOn (length + 1) first []
  if stop == ')' then return .whole on
  if on.contains 't' then failBack (.flags .globalTurnedOn) 1
  let off ← if stop == '-' then readTurnedOff else pure []
  if off.contains 't' then failBack (.flags .globalTurnedOff) 1
  if on.any off.contains then failBack (.flags .turnedOnAndOff) 1
  return .scoped on off

end SourceReport.Pattern

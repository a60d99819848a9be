import SourceReport.Pattern.Source
import SourceReport.Text.Digits

namespace SourceReport.Pattern
open Text Reader

inductive Escape where
  | code (n : Nat)
  | category (name : Category) (negated : Bool)
  | anchor (a : Anchor)
  | wordBoundary (negated : Bool)
  | reference (group : Nat)

def readNumbered (t : Token) (count : Nat) : Reader Escape := do
  let digits ← takeAtMost count (isDigitIn 16)
  let written := t.written ++ digits
  if digits.length < count then failAt (.incompleteEscape written) t.position
  let n := ofDigits 16 digits
  if 0x10FFFF < n then failAt (.badEscape written) t.position
  return .code n

/-- The character of octal digits, which has to be one of the first 256. -/
def octalEscape (t : Token) (digits : List Char) : Reader Escape := do
  let n := ofDigits 8 digits
  if 0o377 < n then failAt (.octalRange ('\\' :: digits)) t.position
  return .code n

def readOctal (t : Token) : Reader Escape := do
  octalEscape t (t.char :: (← takeAtMost 2 (isDigitIn 8)))

def readCharacterName (t : Token) : Reader Escape := do
  if !(← skip '\x7b') then fail .noCharacterName
  let (name, found) ← takeUntil '\x7d'
  if name.isEmpty then failBack .missingCharacterName (if found then 1 else 0)
  if !found then failBack .unfinishedCharacterName name.length
  match (← get).characters name with
  | some c => return .code c.toNat
  | none => failAt (.unknownCharacter name) t.position

/-- Reads an escape that means the same inside and outside of sets. -/
def readEscape (t : Token) : Reader Escape :=
  match t.char with
  | 'a' => return .code 7
  | 'f' => return .code 12
  | 'n' => return .code 10
  | 'r' => return .code 13
  | 't' => return .code 9
  | 'v' => return .code 11
  | 'd' => return .category .digit false
  | 'D' => return .category .digit true
  | 's' => return .category .space false
  | 'S' => return .category .space true
  | 'w' => return .category .word false
  | 'W' => return .category .word true
  | 'x' => readNumbered t 2
  | 'u' => readNumbered t 4
  | 'U' => readNumbered t 8
  | 'N' => readCharacterName t
  | '0' => readOctal t
  | c => if c.isAlphanum then failAt (.badEscape t.written) t.position else return .code c.toNat

/-- Reads a token inside a set, where one escape is a character of its own and digits are octal. -/
def readInner (t : Token) : Reader Escape :=
  if !t.escaped then return .code t.char.toNat
  else if t.char == 'b' then return .code 8
  else if isDigitIn 8 t.char then readOctal t
  else readEscape t

/-- Reads the number of a group after its first digit. Three octal digits name a character. -/
def readReference (t : Token) : Reader Escape := do
  let digits := t.char :: (← takeAtMost 1 Char.isDigit)
  let third ←
    if digits.length = 2 ∧ digits.all (isDigitIn 8) then takeAtMost 1 (isDigitIn 8) else pure []
  if !third.isEmpty then
    return ← octalEscape t (digits ++ third)
  let number := ofDigits 10 digits
  let s ← get
  if s.groups.length < number then failBack (.group (.unknownNumber number)) digits.length
  if !s.isClosed number then failAt (.group .stillOpen) t.position
  checkLookBehind number
  return .reference number

/-- Reads an escape outside of sets, where some stand for places and some refer to groups. -/
def readOuter (t : Token) : Reader Escape :=
  match t.char with
  | 'A' => return .anchor .textStart
  | 'Z' => return .anchor .textEnd
  | 'b' => return .wordBoundary false
  | 'B' => return .wordBoundary true
  | c => if '1' ≤ c ∧ c ≤ '9' then readReference t else readEscape t

end SourceReport.Pattern

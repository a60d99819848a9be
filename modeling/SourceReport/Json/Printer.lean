import SourceReport.Json
import SourceReport.Text.Order

namespace SourceReport.Json
open Text

structure Style where
  indent : Option Nat := none
  sortKeys : Bool := false

def escapeChar (c : Char) : List Char :=
  if c = '\x22' then ['\\', '\x22']
  else if c = '\\' then ['\\', '\\']
  else if c = '\n' then ['\\', 'n']
  else if c = '\r' then ['\\', 'r']
  else if c = '\t' then ['\\', 't']
  else if c = '\x08' then ['\\', 'b']
  else if c = '\x0c' then ['\\', 'f']
  else if c.toNat < 0x20 then '\\' :: 'u' :: hexDigits 4 c.toNat
  else [c]

def printString (s : List Char) : List Char := '\x22' :: s.flatMap escapeChar ++ ['\x22']

def lineBreak (style : Style) (level : Nat) : List Char :=
  match style.indent with
  | none => []
  | some n => '\n' :: List.replicate (n * level) ' '

def separator (style : Style) (level : Nat) : List Char :=
  if style.indent.isSome then ',' :: lineBreak style level else [',', ' ']

/-- Printed items between brackets; brackets without items stay together. -/
def enclose (style : Style) (level : Nat) (opening closing : Char) (items : List (List Char)) :
    List Char :=
  if items.isEmpty then [opening, closing]
  else
    opening :: lineBreak style (level + 1) ++
      List.intercalate (separator style (level + 1)) items ++ lineBreak style level ++ [closing]

def orderFields (style : Style) (fields : List (List Char × List Char)) : List (List Char) :=
  let sorted := if style.sortKeys then fields.mergeSort fun a b => codeLe a.1 b.1 else fields
  sorted.map fun f => printString f.1 ++ [':', ' '] ++ f.2

mutual

def printAt (style : Style) (level : Nat) : Json → List Char
  | null => ['n', 'u', 'l', 'l']
  | bool true => ['t', 'r', 'u', 'e']
  | bool false => ['f', 'a', 'l', 's', 'e']
  | num n => decimal n
  | real written => written
  | str s => printString s
  | arr items => enclose style level '[' ']' (printItems style (level + 1) items)
  | obj fields =>
    enclose style level '\x7b' '\x7d' (orderFields style (printFields style (level + 1) fields))

def printItems (style : Style) (level : Nat) : List Json → List (List Char)
  | [] => []
  | item :: rest => printAt style level item :: printItems style level rest

def printFields (style : Style) (level : Nat) :
    List (List Char × Json) → List (List Char × List Char)
  | [] => []
  | (name, value) :: rest => (name, printAt style level value) :: printFields style level rest

end

def print (style : Style) (j : Json) : List Char := j.printAt style 0

end SourceReport.Json

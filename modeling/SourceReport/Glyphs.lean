namespace SourceReport

structure Glyphs where
  /-- Opens a block that names its source; the name and a bracket follow. -/
  openingSource : List Char
  opening : Char
  row : Char
  strip : Char
  /-- Closes a block that ends in a note; the note and a bracket follow. -/
  closingNote : List Char
  closing : Char
  ellipsis : List Char
  point : Char
  /-- Marks a single character. -/
  single : Char
  /-- The left end, the middle and the right end of a longer mark. -/
  left : Char
  fill : Char
  right : Char
  /-- Stands for every character outside ASCII, where only ASCII may be shown. -/
  placeholder : Option Char

namespace Glyphs

def unicode : Glyphs where
  openingSource := ['╭', '─', '[']
  opening := '╷'
  row := '│'
  strip := '╎'
  closingNote := ['╰', '─', '[']
  closing := '╵'
  ellipsis := ['…']
  point := '⏵'
  single := '⁃'
  left := '╶'
  fill := '─'
  right := '╴'
  placeholder := none

def ascii : Glyphs where
  openingSource := ['+', '-', '[']
  opening := ','
  row := '|'
  strip := ':'
  closingNote := ['+', '-', '[']
  closing := '\x27'
  ellipsis := ['.', '.', '.']
  point := '^'
  single := '^'
  left := '^'
  fill := '~'
  right := '~'
  placeholder := some '?'

/-- The printable character that a character is shown as. Control characters have pictures of
their own; a tab is shown as a space where the pictures are not to be had. -/
def displayChar (g : Glyphs) (c : Char) : Char :=
  match g.placeholder with
  | some stand =>
    if c = '\t' then ' '
    else if c.toNat < 0x20 ∨ 0x7F ≤ c.toNat then stand
    else c
  | none =>
    if c.toNat < 0x20 then Char.ofNat (c.toNat + 0x2400)
    else if c.toNat = 0x7F then '␡'
    else c

def display (g : Glyphs) (s : List Char) : List Char := s.map g.displayChar

@[simp] theorem length_display (g : Glyphs) (s : List Char) : (g.display s).length = s.length := by
  simp [display]

end Glyphs

end SourceReport

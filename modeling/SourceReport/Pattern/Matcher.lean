import SourceReport.Pattern

namespace SourceReport.Pattern
open Text

/-- What a group has matched: where it was last entered, with the text from there on, and where it
was last left. -/
structure Capture where
  start : Nat
  text : List Char
  stop : Option Nat

/-- The text of a group that has been left since it was entered, or where it was entered. -/
def Capture.matched? (g : Capture) : Option (List Char) :=
  (g.stop.filter (g.start ≤ ·)).map fun stop => g.text.take (stop - g.start)

/-- A place in a text, with the characters before it, nearest first, and those after it, and what
groups have matched on the way there. -/
structure Cursor where
  position : Nat := 0
  before : List Char := []
  after : List Char
  captures : List (Nat × Capture) := []

namespace Cursor

def ofText (s : List Char) : Cursor := { after := s }

/-- Whether a word starts or ends at the place. There are no words in an empty text, and no places
in respect to them. -/
def isWordBoundary (c : Cursor) (ascii : Bool) : Bool :=
  let inWord := Category.word.contains ascii
  c.before.head?.any inWord != c.after.head?.any inWord

def meets (c : Cursor) : Anchor → Bool
  | .lineStart => c.before.head?.all (· == '\n')
  | .lineEnd => c.after.head?.all (· == '\n')
  | .textStart => c.before.isEmpty
  | .textEnd => c.after.isEmpty
  | .lastLineEnd => c.after.isEmpty || c.after == ['\n']
  | .wordBoundary ascii negated =>
    !(c.before.isEmpty && c.after.isEmpty) && c.isWordBoundary ascii != negated

def pass? (c : Cursor) (p : Char → Bool) : Option Cursor :=
  match c.after with
  | [] => none
  | d :: rest =>
    if p d then
      some { c with position := c.position + 1, before := d :: c.before, after := rest }
    else none

def passText? (same : Char → Char → Bool) : (text : List Char) → Cursor → Option Cursor
  | [], c => some c
  | d :: ds, c => (c.pass? (same d)).bind (passText? same ds)

def back? : (count : Nat) → Cursor → Option Cursor
  | 0, c => some c
  | count + 1, c =>
    match c.before with
    | [] => none
    | d :: rest =>
      back? count { c with position := c.position - 1, before := rest, after := d :: c.after }

def capture? (c : Cursor) (group : Nat) : Option Capture := c.captures.lookup group

def matched? (c : Cursor) (group : Nat) : Option (List Char) :=
  (c.capture? group).bind (·.matched?)

def record (c : Cursor) (group : Nat) (g : Capture) : Cursor :=
  { c with captures := (group, g) :: c.captures.filter (·.1 != group) }

def enter (c : Cursor) (group : Nat) : Cursor :=
  c.record group
    { start := c.position, text := c.after, stop := (c.capture? group).bind (·.stop) }

def leave (c : Cursor) (group : Nat) : Cursor :=
  match c.capture? group with
  | some g => c.record group { g with stop := some c.position }
  | none => c

end Cursor

def sameChar (ignoreCase ascii : Bool) (c d : Char) : Bool :=
  if !ignoreCase then c == d
  else if ascii then c.toLower == d.toLower
  else toLower c == toLower d

/-- What to try at a place after a match: the rest of the pattern. -/
abbrev Rest := Cursor → Option Cursor

/-- Repeats a step. Once the repetitions needed are made, none follows one that passed no character;
`last` is where the last of these started. -/
def repeatStep (step : Cursor → Rest → Option Cursor) (greedy : Bool) :
    (fuel least : Nat) → (most last : Option Nat) → Cursor → Rest → Option Cursor
  | 0, least, _, _, c, rest => if least = 0 then rest c else none
  | fuel + 1, least, most, last, c, rest =>
    if 0 < least then
      step c fun d => repeatStep step greedy fuel (least - 1) (most.map (· - 1)) last d rest
    else if most = some 0 ∨ last = some c.position then rest c
    else
      let again (_ : Unit) := step c fun d =>
        repeatStep step greedy fuel 0 (most.map (· - 1)) (some c.position) d rest
      if greedy then (again ()).or (rest c) else (rest c).or (again ())

/-- Repeats a step with an appetite. A possessive repetition keeps each of its steps, and all of
them together, as they first matched. -/
def repeatWith (appetite : Appetite) (times : Bounds) (step : Cursor → Rest → Option Cursor)
    (c : Cursor) (rest : Rest) : Option Cursor :=
  let fuel := times.least + c.after.length + 1
  match appetite with
  | .greedy => repeatStep step true fuel times.least times.most none c rest
  | .lazy => repeatStep step false fuel times.least times.most none c rest
  | .possessive =>
    let keep (d : Cursor) (k : Rest) := (step d some).bind k
    (repeatStep keep true fuel times.least times.most none c some).bind rest

/-- Matches a pattern at a place, and then the rest. The result is where the rest ends. What groups
have matched in a look is known after it, unless the look is negated. -/
def matchThen : Pattern → Cursor → Rest → Option Cursor
  | empty, c, rest => rest c
  | set s, c, rest => (c.pass? s.contains).bind rest
  | anchor a, c, rest => if c.meets a then rest c else none
  | cat p q, c, rest => matchThen p c fun d => matchThen q d rest
  | alt p q, c, rest => (matchThen p c rest).or (matchThen q c rest)
  | repetition p times appetite, c, rest =>
    repeatWith appetite times (fun d k => matchThen p d k) c rest
  | atomic p, c, rest => (matchThen p c some).bind rest
  | look distance p negated, c, rest =>
    match (c.back? distance.least).bind fun d => matchThen p d some with
    | some d => if negated then none else rest { c with captures := d.captures }
    | none => if negated then rest c else none
  | group n p, c, rest => matchThen p (c.enter n) fun d => rest (d.leave n)
  | reference n ignoreCase ascii, c, rest =>
    (c.matched? n).bind fun text => (c.passText? (sameChar ignoreCase ascii) text).bind rest
  | choice n p q, c, rest =>
    if (c.matched? n).isSome then matchThen p c rest else matchThen q c rest

/-- Matches a pattern at a place; a match of no characters does not count if it `mustAdvance`. -/
def matchAt (p : Pattern) (mustAdvance : Bool) (c : Cursor) : Option Cursor :=
  matchThen p c fun d => if mustAdvance && d.position == c.position then none else some d

/-- The first match at a place or after it: where it starts, and where it ends. -/
def searchFrom (p : Pattern) (mustAdvance : Bool) (position : Nat) (before : List Char) :
    List Char → Option (Nat × Cursor)
  | [] => (matchAt p mustAdvance { position, before, after := [] }).map (position, ·)
  | c :: rest =>
    match matchAt p mustAdvance { position, before, after := c :: rest } with
    | some stop => some (position, stop)
    | none => searchFrom p false (position + 1) (c :: before) rest

/-- All matches from a place on, at most `fuel` of them. The search goes on where a match ends, and
after an empty match another one at the same place must not be empty. -/
def matchesFrom (p : Pattern) : (fuel : Nat) → (mustAdvance : Bool) → Cursor → List (Nat × Nat)
  | 0, _, _ => []
  | fuel + 1, mustAdvance, c =>
    match searchFrom p mustAdvance c.position c.before c.after with
    | none => []
    | some (start, stop) =>
      (start, stop.position) :: matchesFrom p fuel (stop.position == start) stop

/-- All matches in a text, by the offsets where they start and end. At each place there are at most
two, one of which is empty. -/
def findAll (p : Pattern) (s : List Char) : List (Nat × Nat) :=
  matchesFrom p (2 * s.length + 2) false (.ofText s)

end SourceReport.Pattern

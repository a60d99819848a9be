import SourceReport.Pattern.Escape
import SourceReport.Pattern.Flags
import SourceReport.Text.CharClass.Names
import SourceReport.Text.Numeral

namespace SourceReport.Pattern
open Text Reader

def Escape.item : Escape → SetItem
  | code n => .code n
  | category name negated => .category name negated
  | anchor _ | wordBoundary _ | reference _ => .category .word true

def rangeItem (first last : Token) (low high : Escape) : Reader SetItem := do
  match low, high with
  | .code a, .code b => if a ≤ b then return .range a b
  | _, _ => pure ()
  failBack (.badRange first.written last.written) (first.written.length + 1 + last.written.length)

def checkSign (t : Token) : Reader Unit := do
  if t.isPlainIn ['-', '&', '~', '|'].contains && (← isNext t.char) then
    remark (.setOperation t.char t.position)

def readSet (start : Nat) : (fuel : Nat) → List SetItem → Reader (List SetItem)
  | 0, _ => failAt .unterminatedSet start
  | fuel + 1, items => do
    let some t ← take? | failAt .unterminatedSet start
    if t.isPlain ']' && !items.isEmpty then return items
    unless items.isEmpty do checkSign t
    let low ← readInner t
    if !(← skip '-') then return ← readSet start fuel (items ++ [low.item])
    let some u ← take? | failAt .unterminatedSet start
    if u.isPlain ']' then return items ++ [low.item, .code '-'.toNat]
    if u.isPlain '-' then remark (.setOperation '-' (u.position - 1))
    let high ← readInner u
    readSet start fuel (items ++ [← rangeItem t u low high])

def countLimit : Nat := 4294967295

/-- Reads bounds after their opening brace; where something else stands, nothing is passed. -/
def readBounds? (start : Nat) : Reader (Option Bounds) := do
  if ← isNext '\x7d' then return none
  let before ← get
  let low ← takeWhile Char.isDigit
  let hasComma ← skip ','
  let high ← if hasComma then takeWhile Char.isDigit else pure low
  if !(← skip '\x7d') then
    modify fun _ => before
    return none
  let least := ofDigits 10 low
  let most := if high.isEmpty then none else some (ofDigits 10 high)
  if countLimit ≤ least ∨ most.any (countLimit ≤ ·) then throw { cause := .countTooLarge }
  if most.any (· < least) then failAt .repeatBounds (start + 1)
  return some { least, most }

structure Piece where
  pattern : Pattern
  isAnchor : Bool := false
  isRepetition : Bool := false

def sequence : List Piece → Pattern
  | [] => .empty
  | last :: before => before.foldl (fun rest p => .cat p.pattern rest) last.pattern

def setPattern (flags : Flags) (negated : Bool) (items : List SetItem) : Pattern :=
  .set { negated, ignoreCase := flags.ignoreCase, ascii := flags.ascii, items }

def codePattern (flags : Flags) (n : Nat) : Pattern := setPattern flags false [.code n]

def dotPattern (flags : Flags) : Pattern :=
  .set { negated := true, items := if flags.dotAll then [] else [.code 10] }

def anchorPiece (a : Anchor) : Piece := { pattern := .anchor a, isAnchor := true }

def Escape.piece (flags : Flags) : Escape → Piece
  | code n => { pattern := codePattern flags n }
  | category name negated => { pattern := setPattern flags false [.category name negated] }
  | anchor a => anchorPiece a
  | wordBoundary negated => anchorPiece (.wordBoundary flags.ascii negated)
  | reference number => { pattern := .reference number flags.ignoreCase flags.ascii }

def readAppetite : Reader Appetite := do
  if ← skip '?' then return .lazy
  if ← skip '+' then return .possessive
  return .greedy

def repeatLast (t : Token) (times : Bounds) : List Piece → Reader (List Piece)
  | [] => failAt .nothingToRepeat t.position
  | last :: before => do
    if last.isAnchor then failAt .nothingToRepeat t.position
    if last.isRepetition then failAt .multipleRepeat t.position
    let appetite ← readAppetite
    return { pattern := .repetition last.pattern times appetite, isRepetition := true } :: before

inductive Opening where
  | capture (name : Option (List Char))
  | scope (flags : Flags)
  | atomic
  | look (behind negated : Bool)
  | condition (number : Nat)
  | reference (number : Nat)
  | flags (flags : Flags)
  | comment

def readName (stop : Char) : Reader (List Char) := do
  let name ← takeName stop
  if !isName name then failBack (.group (.badName name)) (name.length + 1)
  return name

def numberOf (name : List Char) : Reader Nat := do
  match (← get).names.lookup name with
  | some number => return number
  | none => failBack (.group (.unknownName name)) (name.length + 1)

def groupLimit : Nat := 1073741823

/-- Reads the group that a condition is about: its name, or its number, which may be that of a group
further on. -/
def readCondition : Reader Nat := do
  let name ← takeName ')'
  let number ←
    if isName name then numberOf name
    else
      match readInteger? name with
      | some (.ofNat n) =>
        if n = 0 then failBack (.group .zero) (name.length + 1)
        if groupLimit ≤ n then failBack (.group (.unknownNumber n)) (name.length + 1)
        let place := (← position) - (name.length + 1)
        if ((← get).conditions.lookup n).isNone then
          modify fun s => { s with conditions := (n, place) :: s.conditions }
        unless name.all Char.isDigit do remark (.groupNumber name place)
        pure n
      | _ => failBack (.group (.badName name)) (name.length + 1)
  checkLookBehind number
  return number

def readNamed : Reader Opening := do
  if ← skip '<' then return .capture (some (← readName '>'))
  if ← skip '=' then
    let name ← readName ')'
    let number ← numberOf name
    if !(← get).isClosed number then failBack (.group .stillOpen) (name.length + 1)
    checkLookBehind number
    return .reference number
  let some t ← take? | fail .unexpectedEnd
  failBack (.unknownExtension ('P' :: t.written)) (t.written.length + 2)

def readBehind : Reader Opening := do
  let some t ← take? | fail .unexpectedEnd
  if t.isPlain '=' then return .look true false
  if t.isPlain '!' then return .look true true
  failBack (.unknownExtension ('<' :: t.written)) (t.written.length + 2)

def readOpening (start : Nat) (flags : Flags) : Reader Opening := do
  if !(← skip '?') then return .capture none
  let some t ← take? | fail .unexpectedEnd
  if t.isPlain ':' then return .scope flags
  if t.isPlain '>' then return .atomic
  if t.isPlain '=' then return .look false false
  if t.isPlain '!' then return .look false true
  if t.isPlain '<' then return ← readBehind
  if t.isPlain 'P' then return ← readNamed
  if t.isPlain '(' then return .condition (← readCondition)
  if t.isPlain '#' then
    let (_, found) ← takeUntil ')'
    if !found then failAt .unterminatedComment start
    return .comment
  if !t.isPlainIn ('-' :: flagLetters).contains then
    failBack (.unknownExtension t.written) (t.written.length + 1)
  match ← readFlags t.char with
  | .whole on =>
    modify fun s => { s with flags := on ++ s.flags }
    return .flags (flags.turn on [])
  | .scoped on off => return .scope (flags.turn on off)

def closeParenthesis (start : Nat) : Reader Unit := do
  if !(← skip ')') then failAt .unterminatedGroup start

mutual

def readAlternatives : (fuel : Nat) → (isOuter : Bool) → Flags → Reader Pattern
  | 0, _, _ => fail .unexpectedEnd
  | fuel + 1, isOuter, flags => do
    let (first, flags) ← readPieces fuel isOuter flags []
    if ← skip '|' then return .alt first (← readAlternatives fuel false flags)
    return first

/-- Reads pieces up to the end of their alternative, after those given in reverse. Flags for the
whole pattern may stand before the first piece. -/
def readPieces : (fuel : Nat) → (isFirst : Bool) → Flags → List Piece → Reader (Pattern × Flags)
  | 0, _, _, _ => fail .unexpectedEnd
  | fuel + 1, isFirst, flags, pieces => do
    if (← isNext '|') || (← isNext ')') then return (sequence pieces, flags)
    let some t ← take? | return (sequence pieces, flags)
    if flags.verbose && t.isPlainIn isPlainBlank then
      return ← readPieces fuel isFirst flags pieces
    if flags.verbose && t.isPlain '#' then
      let _ ← takeUntil '\n'
      return ← readPieces fuel isFirst flags pieces
    if t.escaped then
      return ← readPieces fuel isFirst flags ((← readOuter t).piece flags :: pieces)
    match t.char with
    | '^' =>
      let a : Anchor := if flags.multiline then .lineStart else .textStart
      readPieces fuel isFirst flags (anchorPiece a :: pieces)
    | '$' =>
      let a : Anchor := if flags.multiline then .lineEnd else .lastLineEnd
      readPieces fuel isFirst flags (anchorPiece a :: pieces)
    | '.' => readPieces fuel isFirst flags ({ pattern := dotPattern flags } :: pieces)
    | '[' =>
      if ← isNext '[' then remark (.nestedSet (t.position + 1))
      let negated ← skip '^'
      let items ← readSet t.position ((← get).tokens.length + 1) []
      readPieces fuel isFirst flags ({ pattern := setPattern flags negated items } :: pieces)
    | '?' =>
      readPieces fuel isFirst flags (← repeatLast t { least := 0, most := some 1 } pieces)
    | '*' => readPieces fuel isFirst flags (← repeatLast t { least := 0, most := none } pieces)
    | '+' => readPieces fuel isFirst flags (← repeatLast t { least := 1, most := none } pieces)
    | '\x7b' =>
      match ← readBounds? t.position with
      | some times => readPieces fuel isFirst flags (← repeatLast t times pieces)
      | none =>
        readPieces fuel isFirst flags ({ pattern := codePattern flags t.char.toNat } :: pieces)
    | '(' =>
      match ← readOpening t.position flags with
      | .comment => readPieces fuel isFirst flags pieces
      | .flags changed =>
        if !isFirst || !pieces.isEmpty then failAt .lateFlags t.position
        readPieces fuel isFirst changed pieces
      | opening =>
        let pattern ← readGroup fuel t.position flags opening
        readPieces fuel isFirst flags ({ pattern } :: pieces)
    | c => readPieces fuel isFirst flags ({ pattern := codePattern flags c.toNat } :: pieces)

def readGroup : (fuel : Nat) → (start : Nat) → Flags → Opening → Reader Pattern
  | 0, _, _, _ => fail .unexpectedEnd
  | fuel + 1, start, flags, opening => do
    match opening with
    | .capture name =>
      let number ← openGroup name
      let body ← readAlternatives fuel false flags
      closeParenthesis start
      closeGroup number body
      return .group number body
    | .scope inner =>
      let body ← readAlternatives fuel false inner
      closeParenthesis start
      return body
    | .atomic =>
      let body ← readAlternatives fuel false flags
      closeParenthesis start
      return .atomic body
    | .look false negated =>
      let body ← readAlternatives fuel false flags
      closeParenthesis start
      return .look (.exactly 0) body negated
    | .look true negated =>
      let outer := (← get).lookBehind
      modify fun s => { s with lookBehind := outer.or (some s.groups.length) }
      let body ← readAlternatives fuel false flags
      modify fun s => { s with lookBehind := outer }
      closeParenthesis start
      return .look (body.width (← get).groupWidth) body negated
    | .condition number =>
      let (present, _) ← readPieces fuel false flags []
      if !(← skip '|') then
        closeParenthesis start
        return .choice number present .empty
      let (absent, _) ← readPieces fuel false flags []
      if ← isNext '|' then fail (.group .moreThanTwoBranches)
      closeParenthesis start
      return .choice number present absent
    | .reference number => return .reference number flags.ignoreCase flags.ascii
    | .flags _ | .comment => return .empty

end

/-- The first reason, in the order of its parts, why a pattern cannot be used though it is written
as it should be. Looks behind go back by one distance, which is not too far. -/
def flaw? (refusesRepetition : Bool) : Pattern → Option Cause
  | empty | set _ | anchor _ | reference _ _ _ => none
  | cat p q | alt p q | choice _ p q => (flaw? refusesRepetition p).or (flaw? refusesRepetition q)
  | repetition p _ appetite =>
    if refusesRepetition then some (.refusedRepetition appetite) else flaw? refusesRepetition p
  | atomic p | group _ p => flaw? refusesRepetition p
  | look distance p _ =>
    if countLimit < distance.least then some .farLookBehind
    else if distance.most ≠ some distance.least then some .variableLookBehind
    else flaw? refusesRepetition p

/-- Reads a whole pattern. Each step passes a token or goes a level down, of which a group takes
three. -/
def readWhole : Reader Pattern := do
  goOn (← get).tokens
  let p ← readAlternatives (3 * (← get).tokens.length + 3) true {}
  let s ← get
  if s.flags.contains 'a' && s.flags.contains 'u' then throw { cause := .contradictoryFlags }
  if let some _ ← next? then fail .unbalanced
  match s.conditions.reverse.find? (s.groups.length < ·.1) with
  | some (number, place) => failAt (.group (.unknownNumber number)) place
  | none => return p

def Source.check (source : Source) (p : Pattern) : Except Error Pattern :=
  match p.flaw? (source.flags.contains 't') with
  | some cause => .error { cause }
  | none => .ok p

/-- Reads a pattern, in which characters may be named, and gives what is to remark on it. -/
def read (characters : CharacterNames) (s : List Char) : Except Error Pattern × List Remark :=
  let (tokens, dangling) := tokens 0 s
  let start : Source := { tokens, dangling, length := s.length, characters }
  let (result, source) := Id.run (StateT.run (ExceptT.run readWhole) start)
  (result.bind source.check, source.remarks)

end SourceReport.Pattern

import SourceReport.Grammar.Reply
import SourceReport.Position
import SourceReport.Excerpt.Make

namespace SourceReport.Grammar

variable {α β : Type}

namespace Parser

def pure (value : α) : Parser α := fun _ index => .success value index

def fail (expected : List Char) : Parser α := fun _ index => .failure index expected

def char (expected : List Char) (accepts : Char → Bool) : Parser Char := fun source index =>
  match source[index]? with
  | some c => if accepts c then .success c (index + 1) else .failure index expected
  | none => .failure index expected

def string (s : List Char) : Parser (List Char) := fun source index =>
  if s.isPrefixOf (source.drop index) then .success s (index + s.length) else .failure index s

def eof : Parser Unit := fun source index =>
  if source.length ≤ index then .success () index else .failure index "EOF".toList

def map (f : α → β) (p : Parser α) : Parser β := fun source index =>
  let r := p source index
  { result := r.result.map fun (value, index) => (f value, index), reach := r.reach }

def pair (p : Parser α) (q : Parser β) : Parser (α × β) := fun source index =>
  let first := p source index
  match first.result with
  | none => { result := none, reach := first.reach }
  | some (a, index) =>
    let second := (q source index).after first.reach
    { result := second.result.map fun (b, index) => ((a, b), index), reach := second.reach }

def seqAfter (reach : Reach) : List (Parser α) → Parser (List α)
  | [] => fun _ index => { result := some ([], index), reach }
  | p :: ps => fun source index =>
    let r := (p source index).after reach
    match r.result with
    | none => { result := none, reach := r.reach }
    | some (value, index) =>
      let rest := seqAfter r.reach ps source index
      { result := rest.result.map fun (values, index) => (value :: values, index)
        reach := rest.reach }

def seq (ps : List (Parser α)) : Parser (List α) := seqAfter {} ps

def altAfter (reach : Reach) : List (Parser α) → Parser α
  | [] => fun _ _ => { result := none, reach }
  | p :: ps => fun source index =>
    let r := (p source index).after reach
    if r.isSuccess then r else altAfter r.reach ps source index

/-- Takes the first alternative that succeeds. -/
def alt : List (Parser α) → Parser α
  | [] => fail "<empty alt>".toList
  | p :: ps => altAfter {} (p :: ps)

/-- Repeats a parser at most `most` times, after a given reach; `least` repetitions are needed. -/
def repeatAfter (p : Parser α) (reach : Reach) (least : Nat) : (most : Nat) → Parser (List α)
  | 0 => fun _ index => { result := some ([], index), reach }
  | most + 1 => fun source index =>
    let r := (p source index).after reach
    match r.result with
    | none => { result := if least = 0 then some ([], index) else none, reach := r.reach }
    | some (value, index) =>
      let rest := repeatAfter p r.reach (least - 1) most source index
      { result := rest.result.map fun (values, index) => (value :: values, index)
        reach := rest.reach }

/-- Repeats a parser as often as it succeeds, at most `most` times. Without a limit there are no
more repetitions than characters, as a repetition that reads nothing would never end. -/
def times (p : Parser α) (least : Nat) (most : Option Nat) : Parser (List α) := fun source index =>
  repeatAfter p {} least (most.getD (source.length - index + 1)) source index

/-- Forgets how a parser failed, and names what it stands for instead. -/
def describe (expected : List Char) (p : Parser α) : Parser α := fun source index =>
  let r := p source index
  if r.isSuccess then r else .failure index expected

end Parser

structure Located (α : Type) where
  value : α
  start : Position
  stop : Position

def Located.excerpt (l : Located α) (sourceName : Option (List Char)) : Excerpt :=
  let e := Excerpt.between l.start l.stop
  match sourceName with
  | none => e
  | some name => e.withSource name

/-- Keeps the positions where the text of a value starts and ends, and how far the parser got. -/
def Parser.located (p : Parser α) : Parser (Located α) := fun source index =>
  let r := p source index
  match r.result with
  | none => { result := none, reach := r.reach }
  | some (value, stop) =>
    (Reply.success { value, start := .atOffset source index, stop := .atOffset source stop }
      stop).after r.reach

theorem Parser.located_result (p : Parser α) (source : List Char) (index : Nat) :
    (p.located source index).result = (p source index).result.map fun (value, stop) =>
      ({ value, start := .atOffset source index, stop := .atOffset source stop }, stop) := by
  unfold located
  dsimp only
  cases (p source index).result with
  | none => rfl
  | some read => rfl

/-- Keeping positions changes neither how far a parser gets nor whether it succeeds. -/
theorem Parser.located_reach (p : Parser α) (source : List Char) (index : Nat) :
    (p.located source index).reach = (p source index).reach := by
  unfold located
  dsimp only
  cases (p source index).result with
  | none => rfl
  | some read => exact Reach.none_join _

theorem Parser.located_isSuccess (p : Parser α) (source : List Char) (index : Nat) :
    (p.located source index).isSuccess = (p source index).isSuccess := by
  rw [Reply.isSuccess, located_result, Option.isSome_map, Reply.isSuccess]

end SourceReport.Grammar

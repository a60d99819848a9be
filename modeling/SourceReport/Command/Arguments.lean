import SourceReport.Command.Usage
import SourceReport.Text.Numeral

namespace SourceReport.Command
open Text

inductive Value (α : Type) where
  | given (value : α)
  | separator
  deriving DecidableEq

namespace Value

def toOption {α : Type} : Value α → Option α
  | given value => some value
  | separator => none

def isSeparator {α : Type} : Value α → Bool
  | given _ => false
  | separator => true

/-- A text as it is shown in a report, or the empty list. -/
def shown : Value (List Char) → List Char
  | given s => s
  | separator => ['[', ']']

def logged : Value (List Char) → List Char
  | given s => quoted s
  | separator => ['[', ']']

end Value

structure Arguments where
  input : Option (List Char) := none
  pattern : Option (Value (List Char)) := none
  title : Value (List Char) := .given "Pattern matched".toList
  details : Value (List Char) := .given []
  comment : Option (Value (List Char)) := none
  suggestions : List (Value (List Char)) := []
  warning : Bool := false
  ascii : Bool := false
  colour : Bool := false
  width : Option (Value Int) := none
  html : Bool := false
  verbose : Bool := false
  unrecognized : List (List Char) := []
  deriving DecidableEq

structure Written where
  name : Name
  isAssigned : Bool := false
  value : List Char := []

inductive Argument where
  | plain (s : List Char)
  | separator
  | option (w : Written)
  | unknownOption (s : List Char)

def name? (written : List Char) : Option Name := names.find? (·.written == written)

def splitAssigned (s : List Char) : List Char × Option (List Char) :=
  match s.dropWhile (· != '=') with
  | [] => (s, none)
  | _ :: value => (s.takeWhile (· != '='), some value)

def dropFinalBreak (s : List Char) : List Char :=
  if s.getLast? = some '\n' then s.dropLast else s

/-- Whether a text is written like a negative number, and so is no option. A line feed at its end
does no harm. -/
def isNegativeNumber (s : List Char) : Bool :=
  match dropFinalBreak s with
  | '-' :: rest =>
    let whole := rest.takeWhile isDecimal
    match rest.dropWhile isDecimal with
    | [] => !whole.isEmpty
    | '.' :: places => !places.isEmpty && places.all isDecimal
    | _ => false
  | _ => false

/-- The options that a text which is no full name may stand for. -/
def candidates (s : List Char) : List Written :=
  if "--".toList.isPrefixOf s then
    let (start, value) := splitAssigned s
    (names.filter fun n => start.isPrefixOf n.written).map fun name =>
      { name, isAssigned := value.isSome, value := value.getD [] }
  else
    names.filterMap fun name =>
      if name.written = s.take 2 then some { name, value := s.drop 2 }
      else if s.isPrefixOf name.written then some { name }
      else none

def classify (s : List Char) : Except UsageError Argument :=
  if s.head? ≠ some '-' then .ok (.plain s)
  else match name? s with
    | some name => .ok (.option { name })
    | none =>
      if s.length = 1 then .ok (.plain s)
      else
        let (start, value) := splitAssigned s
        match value, name? start with
        | some value, some name => .ok (.option { name, isAssigned := true, value })
        | _, _ =>
          match candidates s with
          | [one] => .ok (.option one)
          | [] =>
            if isNegativeNumber s || s.contains ' ' then .ok (.plain s) else .ok (.unknownOption s)
          | several => .error (.ambiguous s (several.map (·.name.written)))

def classifyAll : List (List Char) → Except UsageError (List Argument)
  | [] => .ok []
  | s :: rest =>
    if s = "--".toList then .ok (.separator :: rest.map .plain)
    else do
      let a ← classify s
      return a :: (← classifyAll rest)

structure Change where
  setting : Setting
  written : List Char := []

def Change.value (c : Change) : Value (List Char) :=
  if c.written = "--".toList then .separator else .given c.written

/-- What the letters after a hyphen, or a single option, amount to. -/
structure Cluster where
  changes : List Change
  pending : Option Setting := none

/-- Takes apart what is written after an option's name: its value, or more options of one letter.
Without a value, and without a sign for an empty one, the value is still to come. -/
def cluster (setting : Setting) (isLong isAssigned : Bool) :
    (written : List Char) → Except UsageError Cluster
  | [] =>
    if setting.takesValue then
      if isAssigned then .ok { changes := [{ setting }] }
      else .ok { changes := [], pending := setting }
    else if isAssigned then .error (.needlessValue setting [])
    else .ok { changes := [{ setting }] }
  | letter :: rest =>
    if setting.takesValue then .ok { changes := [{ setting, written := letter :: rest }] }
    else if isLong then .error (.needlessValue setting (letter :: rest))
    else match name? ['-', letter] with
      | none => .error (.needlessValue setting (letter :: rest))
      | some name =>
        (cluster name.setting false false rest).map fun c =>
          { c with changes := { setting } :: c.changes }

def Written.cluster (w : Written) : Except UsageError Cluster :=
  Command.cluster w.name.setting ("--".toList.isPrefixOf w.name.written) w.isAssigned w.value

inductive Stop where
  | helpAsked
  | refused (e : UsageError)
  | noWidth
  deriving DecidableEq

def Arguments.apply (a : Arguments) (c : Change) : Except Stop Arguments :=
  match c.setting with
  | .help => .error .helpAsked
  | .pattern => .ok { a with pattern := c.value }
  | .message => .ok { a with title := c.value }
  | .description => .ok { a with details := c.value }
  | .comment => .ok { a with comment := c.value }
  | .suggest => .ok { a with suggestions := a.suggestions ++ [c.value] }
  | .warning => .ok { a with warning := true }
  | .ascii => .ok { a with ascii := true }
  | .colour => .ok { a with colour := true }
  | .width =>
    match c.value with
    | .separator => .ok { a with width := some .separator }
    | .given written =>
      match readInteger? written with
      | some n => .ok { a with width := some (.given n) }
      | none => .error (.refused (.notANumber .width written))
  | .html => .ok { a with html := true }
  | .verbose => .ok { a with verbose := true }

/-- Reads classified arguments from left to right. The first that is neither an option nor a value
of one is the input; a separator beside it is dropped with it. -/
def readArguments (a : Arguments) : List Argument → Except Stop Arguments
  | [] => .ok a
  | .separator :: rest =>
    if a.input.isSome || rest.isEmpty then
      readArguments { a with unrecognized := a.unrecognized ++ ["--".toList] } rest
    else readArguments a rest
  | .plain s :: .separator :: rest =>
    if a.input.isSome then
      readArguments { a with unrecognized := a.unrecognized ++ [s, "--".toList] } rest
    else readArguments { a with input := some s } rest
  | .plain s :: rest =>
    if a.input.isSome then readArguments { a with unrecognized := a.unrecognized ++ [s] } rest
    else readArguments { a with input := some s } rest
  | .unknownOption s :: rest =>
    readArguments { a with unrecognized := a.unrecognized ++ [s] } rest
  | .option w :: rest => do
    let c ← w.cluster.mapError .refused
    match c.pending with
    | none => readArguments (← c.changes.foldlM Arguments.apply a) rest
    | some setting =>
      match rest with
      | .plain written :: rest =>
        let last : Change := { setting, written }
        readArguments (← (c.changes ++ [last]).foldlM Arguments.apply a) rest
      | _ => throw (.refused (.missingValue setting))

def Arguments.missing (a : Arguments) : List (List Char) :=
  (if a.input.isNone then [inputName] else []) ++
    (if a.pattern.isNone then [Setting.pattern.allNames] else [])

def Arguments.check (a : Arguments) : Except Stop Arguments :=
  if !a.missing.isEmpty then .error (.refused (.missing a.missing))
  else if !a.unrecognized.isEmpty then .error (.refused (.unrecognized a.unrecognized))
  else match a.width with
    | none => .ok a
    | some .separator => .error .noWidth
    | some (.given n) => if n < 20 then .error (.refused (.narrow n)) else .ok a

def Arguments.read (arguments : List (List Char)) : Except Stop Arguments := do
  let classified ← (classifyAll arguments).mapError .refused
  (← readArguments {} classified).check

end SourceReport.Command

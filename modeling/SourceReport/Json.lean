import SourceReport.Text.Decimal
import SourceReport.Text.Quoted

namespace SourceReport

/-- A JSON value. Integers have no bound; other numbers are kept as they are written. -/
inductive Json where
  | null
  | bool (value : Bool)
  | num (value : Int)
  | real (written : List Char)
  | str (value : List Char)
  | arr (items : List Json)
  | obj (fields : List (List Char × Json))

namespace Json
open Text

instance : Inhabited Json := ⟨null⟩

/-- Sets a field: in its place if the name is there, else at the end. -/
def setField (fields : List (List Char × Json)) (name : List Char) (value : Json) :
    List (List Char × Json) :=
  match fields with
  | [] => [(name, value)]
  | (n, v) :: rest => if n = name then (n, value) :: rest else (n, v) :: setField rest name value

/-- An object from fields in the order written. Of fields with one name the last counts. -/
def ofFields (fields : List (List Char × Json)) : Json :=
  obj (fields.foldl (fun fs f => setField fs f.1 f.2) [])

def field? (name : List Char) : Json → Option Json
  | obj fields => fields.lookup name
  | _ => none

def describe : Json → List Char
  | null => "None".toList
  | bool true => "True".toList
  | bool false => "False".toList
  | num n => decimal n
  | real written => written
  | str s => quoted s
  | arr _ => "[...]".toList
  | obj _ => "\x7b...\x7d".toList

def isContainer : Json → Bool
  | arr _ | obj _ => true
  | _ => false

mutual

/-- How deep values are nested in a value; one for a value that holds none. -/
def depth : Json → Nat
  | arr items => 1 + itemsDepth items
  | obj fields => 1 + fieldsDepth fields
  | _ => 1

def itemsDepth : List Json → Nat
  | [] => 0
  | item :: rest => max item.depth (itemsDepth rest)

def fieldsDepth : List (List Char × Json) → Nat
  | [] => 0
  | (_, value) :: rest => max value.depth (fieldsDepth rest)

end

end Json

end SourceReport

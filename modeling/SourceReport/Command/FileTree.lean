import SourceReport.Text.Lines

namespace SourceReport.Command

inductive Reading where
  | bytes (content : List UInt8)
  | refused (reason : List Char)

/-- What a path leads to. Of a folder only the files directly in it count. -/
inductive Input where
  | missing
  | file (reading : Reading)
  | folder (files : List (List Char × Reading))

/-- Files and folders by their paths, given as the names from the root of the tree. -/
structure FileTree where
  files : List (List (List Char) × Reading)
  folders : List (List (List Char)) := []

def pathParts (path : List Char) : List (List Char) := Text.pieces '/' path

def normalNames (path : List Char) : List (List Char) :=
  (pathParts path).foldl (fun names part =>
    if part = [] ∨ part = ['.'] then names
    else if part = ['.', '.'] then names.dropLast
    else names ++ [part]) []

namespace FileTree

def file? (t : FileTree) (names : List (List Char)) : Option Reading := t.files.lookup names

/-- Whether names lead to a folder: the root, a folder listed, or one that has something in it. -/
def isFolder (t : FileTree) (names : List (List Char)) : Bool :=
  names.isEmpty || t.folders.any (names.isPrefixOf ·) ||
    t.files.any fun f => names.isPrefixOf f.1 && names.length < f.1.length

/-- Follows one part of a path, which has to start at a folder. -/
def follow (t : FileTree) (names : List (List Char)) (part : List Char) :
    Option (List (List Char)) :=
  if !t.isFolder names then none
  else if part = [] ∨ part = ['.'] then some names
  else if part = ['.', '.'] then if names.isEmpty then none else some names.dropLast
  else some (names ++ [part])

def filesIn (t : FileTree) (names : List (List Char)) : List (List Char × Reading) :=
  t.files.filterMap fun (path, reading) =>
    match path.getLast? with
    | some name => if path.dropLast = names then some (name, reading) else none
    | none => none

def find (t : FileTree) (path : List Char) : Input :=
  if path.isEmpty || path.head? == some '/' then .missing
  else match (pathParts path).foldlM t.follow [] with
    | none => .missing
    | some names =>
      match t.file? names with
      | some reading => .file reading
      | none => if t.isFolder names then .folder (t.filesIn names) else .missing

def refuse (t : FileTree) (path reason : List Char) : FileTree :=
  { t with files := t.files.map fun (names, reading) =>
      (names, if names = normalNames path then .refused reason else reading) }

end FileTree

end SourceReport.Command

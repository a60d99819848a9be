namespace SourceReport.Markup

inductive Tag where
  | div
  | span
  | p
  | ul
  | li
  | label
  | input
  deriving DecidableEq

def Tag.name : Tag → List Char
  | div => ['d', 'i', 'v']
  | span => ['s', 'p', 'a', 'n']
  | p => ['p']
  | ul => ['u', 'l']
  | li => ['l', 'i']
  | label => ['l', 'a', 'b', 'e', 'l']
  | input => ['i', 'n', 'p', 'u', 't']

inductive Attribute where
  | class_
  | title
  | type
  deriving DecidableEq

def Attribute.name : Attribute → List Char
  | class_ => ['c', 'l', 'a', 's', 's']
  | title => ['t', 'i', 't', 'l', 'e']
  | type => ['t', 'y', 'p', 'e']

inductive Node where
  | text (s : List Char)
  | element (tag : Tag) (attributes : List (Attribute × List Char)) (children : List Node)

def escapeChar (c : Char) : List Char :=
  if c = '&' then ['&', 'a', 'm', 'p', ';']
  else if c = '<' then ['&', 'l', 't', ';']
  else if c = '>' then ['&', 'g', 't', ';']
  else if c = '\x22' then ['&', 'q', 'u', 'o', 't', ';']
  else if c = '\x27' then ['&', '#', 'x', '2', '7', ';']
  else [c]

def escape (s : List Char) : List Char := s.flatMap escapeChar

def printAttribute (a : Attribute × List Char) : List Char :=
  ' ' :: a.1.name ++ ['=', '\x27'] ++ escape a.2 ++ ['\x27']

def openingTag (tag : Tag) (attributes : List (Attribute × List Char)) : List Char :=
  '<' :: tag.name ++ attributes.flatMap printAttribute ++ ['>']

def closingTag (tag : Tag) : List Char := '<' :: '/' :: tag.name ++ ['>']

mutual

def Node.print : Node → List Char
  | .text s => escape s
  | .element tag attributes children =>
    openingTag tag attributes ++ printAll children ++ closingTag tag

def printAll : List Node → List Char
  | [] => []
  | n :: ns => n.print ++ printAll ns

end

def Node.classed (tag : Tag) (name : List Char) (children : List Node) : Node :=
  .element tag [(.class_, name)] children

/-- Escaped text holds none of the characters that end text or a value. -/
theorem escape_free (s : List Char) (c : Char) (h : c ∈ escape s) :
    c ≠ '<' ∧ c ≠ '>' ∧ c ≠ '\x22' ∧ c ≠ '\x27' := by
  obtain ⟨d, -, hd⟩ := List.mem_flatMap.1 h
  unfold escapeChar at hd
  split at hd
  · simp only [List.mem_cons, List.not_mem_nil, or_false] at hd
    rcases hd with rfl | rfl | rfl | rfl | rfl <;> decide
  split at hd
  · simp only [List.mem_cons, List.not_mem_nil, or_false] at hd
    rcases hd with rfl | rfl | rfl | rfl <;> decide
  split at hd
  · simp only [List.mem_cons, List.not_mem_nil, or_false] at hd
    rcases hd with rfl | rfl | rfl | rfl <;> decide
  split at hd
  · simp only [List.mem_cons, List.not_mem_nil, or_false] at hd
    rcases hd with rfl | rfl | rfl | rfl | rfl | rfl <;> decide
  split at hd
  · simp only [List.mem_cons, List.not_mem_nil, or_false] at hd
    rcases hd with rfl | rfl | rfl | rfl | rfl | rfl <;> decide
  · simp only [List.mem_cons, List.not_mem_nil, or_false] at hd
    subst hd
    exact ⟨by assumption, by assumption, by assumption, by assumption⟩

end SourceReport.Markup

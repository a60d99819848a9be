import SourceReport.Markup
import Mathlib.Data.List.Infix

namespace SourceReport.Markup

inductive Token where
  | opening (name : List Char) (attributes : List (List Char × List Char))
  | closing (name : List Char)
  | character (c : Char)
  deriving DecidableEq

/-- Where in the text the reader is, with the parts of the tag that it has read. -/
inductive Mode where
  | data
  | afterAngle
  | openingName (tag : List Char)
  | closingName (tag : List Char)
  | attributeName (tag : List Char) (attributes : List (List Char × List Char)) (name : List Char)
  | afterEquals (tag : List Char) (attributes : List (List Char × List Char)) (name : List Char)
  | value (quote : Char) (tag : List Char) (attributes : List (List Char × List Char))
      (name value : List Char)
  | afterValue (tag : List Char) (attributes : List (List Char × List Char))
  deriving DecidableEq

/-- One character's step. A value goes on up to the quote that opened it, and only a space or the
tag's end may follow. -/
def step : Mode → Char → Option (Mode × List Token)
  | .data, c => if c = '<' then some (.afterAngle, []) else some (.data, [.character c])
  | .afterAngle, c =>
    if c = '/' then some (.closingName [], [])
    else if c.isAlpha then some (.openingName [c], []) else none
  | .openingName tag, c =>
    if c = '>' then some (.data, [.opening tag []])
    else if c = ' ' then some (.attributeName tag [] [], [])
    else if c.isAlpha then some (.openingName (tag ++ [c]), []) else none
  | .closingName tag, c =>
    if c = '>' then some (.data, [.closing tag])
    else if c.isAlpha then some (.closingName (tag ++ [c]), []) else none
  | .attributeName tag attributes name, c =>
    if c = '=' then some (.afterEquals tag attributes name, [])
    else if c.isAlpha then some (.attributeName tag attributes (name ++ [c]), []) else none
  | .afterEquals tag attributes name, c =>
    if c = '\x27' ∨ c = '\x22' then some (.value c tag attributes name [], []) else none
  | .value quote tag attributes name value, c =>
    if c = quote then some (.afterValue tag (attributes ++ [(name, value)]), [])
    else some (.value quote tag attributes name (value ++ [c]), [])
  | .afterValue tag attributes, c =>
    if c = '>' then some (.data, [.opening tag attributes])
    else if c = ' ' then some (.attributeName tag attributes [], []) else none

/-- The steps of a text: where the reader ends, and the tokens it has read on the way. -/
def scan : Mode → List Char → Option (Mode × List Token)
  | mode, [] => some (mode, [])
  | mode, c :: rest => do
    let (mode, tokens) ← step mode c
    let (mode, more) ← scan mode rest
    return (mode, tokens ++ more)

/-- The tokens of a text that does not end inside a tag. -/
def tokenize (s : List Char) : Option (List Token) :=
  match scan .data s with
  | some (.data, tokens) => some tokens
  | _ => none

/-- The tags left open after tokens, last opened first; none if a tag does not close the one that
was opened last. -/
def openAfter : (left : List (List Char)) → List Token → Option (List (List Char))
  | left, [] => some left
  | left, .character _ :: tokens => openAfter left tokens
  | left, .opening name _ :: tokens => openAfter (name :: left) tokens
  | [], .closing _ :: _ => none
  | name :: left, .closing name' :: tokens =>
    if name = name' then openAfter left tokens else none

def WellNested (tokens : List Token) : Prop := openAfter [] tokens = some []

instance (tokens : List Token) : Decidable (WellNested tokens) :=
  inferInstanceAs (Decidable (_ = _))

/-- A character that can neither start nor end a tag or a value. -/
def Inert (c : Char) : Prop := c ≠ '<' ∧ c ≠ '>' ∧ c ≠ '\x22' ∧ c ≠ '\x27'

def Token.Inert : Token → Prop
  | opening _ attributes => ∀ a ∈ attributes, ∀ c ∈ a.2, Markup.Inert c
  | closing _ => True
  | character c => Markup.Inert c

def tagNames : List Token → List (List Char)
  | [] => []
  | .opening name _ :: tokens => name :: tagNames tokens
  | .closing name :: tokens => ('/' :: name) :: tagNames tokens
  | .character _ :: tokens => tagNames tokens

def openingToken (tag : Tag) (attributes : List (Attribute × List Char)) : Token :=
  .opening tag.name (attributes.map fun a => (a.1.name, escape a.2))

mutual

def Node.tokens : Node → List Token
  | .text s => (escape s).map .character
  | .element tag attributes children =>
    openingToken tag attributes :: tokensAll children ++ [.closing tag.name]

def tokensAll : List Node → List Token
  | [] => []
  | n :: ns => n.tokens ++ tokensAll ns

end

theorem scan_cons {mode mid last : Mode} {c : Char} {rest : List Char} {tokens more : List Token}
    (h : step mode c = some (mid, tokens)) (hrest : scan mid rest = some (last, more)) :
    scan mode (c :: rest) = some (last, tokens ++ more) := by
  simp only [scan, h, hrest, Option.bind_eq_bind, Option.bind_some]
  rfl

theorem scan_append {mode mid last : Mode} {s rest : List Char} {tokens more : List Token}
    (h : scan mode s = some (mid, tokens)) (hrest : scan mid rest = some (last, more)) :
    scan mode (s ++ rest) = some (last, tokens ++ more) := by
  induction s generalizing mode tokens with
  | nil =>
    cases h
    exact hrest
  | cons c s ih =>
    rw [scan, Option.bind_eq_bind] at h
    obtain ⟨⟨next, first⟩, hstep, h⟩ := Option.bind_eq_some_iff.mp h
    obtain ⟨⟨after, others⟩, hscan, h⟩ := Option.bind_eq_some_iff.mp h
    cases h
    rw [List.append_assoc]
    exact scan_cons hstep (ih hscan)

theorem scan_characters {s : List Char} (h : ∀ c ∈ s, c ≠ '<') :
    scan .data s = some (.data, s.map .character) := by
  induction s with
  | nil => rfl
  | cons c s ih =>
    rw [List.forall_mem_cons] at h
    have hstep : step .data c = some (.data, [.character c]) := by rw [step, if_neg h.1]
    exact scan_cons hstep (ih h.2)

theorem scan_value {quote : Char} {s : List Char} (h : ∀ c ∈ s, c ≠ quote) (tag name : List Char)
    (attributes : List (List Char × List Char)) (value : List Char) :
    scan (.value quote tag attributes name value) s =
      some (.value quote tag attributes name (value ++ s), []) := by
  induction s generalizing value with
  | nil => rw [scan, List.append_nil]
  | cons c s ih =>
    rw [List.forall_mem_cons] at h
    have hstep : step (.value quote tag attributes name value) c =
        some (.value quote tag attributes name (value ++ [c]), []) := by rw [step, if_neg h.1]
    rw [← List.singleton_append, ← List.append_assoc]
    exact scan_cons hstep (ih h.2 (value ++ [c]))

theorem scan_attribute {mode : Mode} {tag : List Char} {done : List (List Char × List Char)}
    (hspace : step mode ' ' = some (.attributeName tag done [], []))
    (a : Attribute × List Char) :
    scan mode (printAttribute a) =
      some (.afterValue tag (done ++ [(a.1.name, escape a.2)]), []) := by
  have hname : scan (.attributeName tag done []) (a.1.name ++ ['=', '\x27']) =
      some (.value '\x27' tag done a.1.name [], []) := by
    cases a.1 <;> rfl
  have hvalue := scan_value (fun c hc => (escape_free a.2 c hc).2.2.2) tag a.1.name done []
  have hquote : scan (.value '\x27' tag done a.1.name (escape a.2)) ['\x27'] =
      some (.afterValue tag (done ++ [(a.1.name, escape a.2)]), []) := by
    rw [scan, step, if_pos rfl]
    rfl
  exact scan_append (scan_append (scan_cons hspace hname) hvalue) hquote

theorem scan_attributes {mode : Mode} {tag : List Char} {done : List (List Char × List Char)}
    (hspace : step mode ' ' = some (.attributeName tag done [], []))
    (hend : step mode '>' = some (.data, [.opening tag done]))
    (attributes : List (Attribute × List Char)) :
    scan mode (attributes.flatMap printAttribute ++ ['>']) =
      some (.data, [.opening tag (done ++ attributes.map fun a => (a.1.name, escape a.2))]) := by
  induction attributes generalizing mode done with
  | nil =>
    rw [List.map_nil, List.append_nil]
    exact scan_cons hend rfl
  | cons a attributes ih =>
    have hrest : scan (.afterValue tag (done ++ [(a.1.name, escape a.2)]))
        (attributes.flatMap printAttribute ++ ['>']) = _ := ih rfl rfl
    rw [List.append_assoc, List.singleton_append] at hrest
    rw [List.flatMap_cons, List.append_assoc, List.map_cons]
    exact scan_append (scan_attribute hspace a) hrest

theorem scan_openingTag (tag : Tag) (attributes : List (Attribute × List Char)) :
    scan .data (openingTag tag attributes) = some (.data, [openingToken tag attributes]) := by
  have hname : scan .data ('<' :: tag.name) = some (.openingName tag.name, []) := by
    cases tag <;> rfl
  have hattributes : scan (.openingName tag.name)
      (attributes.flatMap printAttribute ++ ['>']) = _ := scan_attributes rfl rfl attributes
  rw [openingTag, List.append_assoc]
  exact scan_append hname hattributes

theorem scan_closingTag (tag : Tag) :
    scan .data (closingTag tag) = some (.data, [.closing tag.name]) := by
  cases tag <;> rfl

mutual

theorem scan_print : ∀ n : Node, scan .data n.print = some (.data, n.tokens)
  | .text s => scan_characters fun c hc => (escape_free s c hc).1
  | .element tag attributes children =>
    scan_append (scan_append (scan_openingTag tag attributes) (scan_printAll children))
      (scan_closingTag tag)

theorem scan_printAll : ∀ ns : List Node, scan .data (printAll ns) = some (.data, tokensAll ns)
  | [] => rfl
  | n :: ns => scan_append (scan_print n) (scan_printAll ns)

end

theorem tokenize_print (n : Node) : tokenize n.print = some n.tokens := by
  rw [tokenize, scan_print]

example : tokenize (Node.classed .p ['a'] [.text ['<']]).print =
    some [.opening ['p'] [(['c', 'l', 'a', 's', 's'], ['a'])], .character '&', .character 'l',
      .character 't', .character ';', .closing ['p']] := by decide

mutual

/-- A tree's tags leave the tags open around it as they are. -/
theorem openAfter_tokens : ∀ (n : Node) (left : List (List Char)) (rest : List Token),
    openAfter left (n.tokens ++ rest) = openAfter left rest
  | .text s, left, rest => by
    rw [Node.tokens]
    induction escape s with
    | nil => rfl
    | cons c cs ih => exact ih
  | .element tag attributes children, left, rest => by
    rw [Node.tokens, List.append_assoc, List.cons_append, openingToken, openAfter,
      openAfter_tokensAll children, List.singleton_append, openAfter, if_pos rfl]

theorem openAfter_tokensAll : ∀ (ns : List Node) (left : List (List Char)) (rest : List Token),
    openAfter left (tokensAll ns ++ rest) = openAfter left rest
  | [], _, _ => rfl
  | n :: ns, left, rest => by
    rw [tokensAll, List.append_assoc, openAfter_tokens n, openAfter_tokensAll ns]

end

theorem wellNested_tokens (n : Node) : WellNested n.tokens := by
  have h := openAfter_tokens n [] []
  rw [List.append_nil] at h
  exact h

mutual

theorem inert_of_mem_tokens : ∀ (n : Node) (t : Token), t ∈ n.tokens → t.Inert
  | .text s, t, ht => by
    obtain ⟨c, hc, rfl⟩ := List.mem_map.mp ht
    exact escape_free _ c hc
  | .element tag attributes children, t, ht => by
    rw [Node.tokens, List.mem_append, List.mem_cons, List.mem_singleton] at ht
    rcases ht with (rfl | ht) | rfl
    · intro a ha c hc
      obtain ⟨b, -, rfl⟩ := List.mem_map.mp ha
      exact escape_free _ c hc
    · exact inert_of_mem_tokensAll children t ht
    · trivial

theorem inert_of_mem_tokensAll : ∀ (ns : List Node) (t : Token), t ∈ tokensAll ns → t.Inert
  | [], t, ht => (List.not_mem_nil ht).elim
  | n :: ns, t, ht => by
    rw [tokensAll, List.mem_append] at ht
    rcases ht with ht | ht
    · exact inert_of_mem_tokens n t ht
    · exact inert_of_mem_tokensAll ns t ht

end

theorem escape_infix_escape {s t : List Char} (h : s <:+: t) : escape s <:+: escape t :=
  h.flatMap escapeChar

theorem printAll_eq_flatMap (ns : List Node) : printAll ns = ns.flatMap Node.print := by
  induction ns with
  | nil => rfl
  | cons n ns ih => rw [printAll, ih, List.flatMap_cons]

theorem infix_flatMap {α β : Type} (f : α → List β) {x : α} {xs : List α} (h : x ∈ xs) :
    f x <:+: xs.flatMap f := by
  rw [List.flatMap_def]
  exact List.infix_of_mem_flatten (List.mem_map_of_mem h)

theorem print_infix_printAll {n : Node} {ns : List Node} (h : n ∈ ns) :
    n.print <:+: printAll ns := by
  rw [printAll_eq_flatMap]
  exact infix_flatMap Node.print h

theorem printAll_infix_printAll {ns ms : List Node} (h : ns <:+: ms) :
    printAll ns <:+: printAll ms := by
  rw [printAll_eq_flatMap, printAll_eq_flatMap]
  exact h.flatMap Node.print

theorem printAll_infix_flatMap {α : Type} (f : α → List Node) {x : α} {xs : List α}
    (h : x ∈ xs) : printAll (f x) <:+: printAll (xs.flatMap f) :=
  printAll_infix_printAll (infix_flatMap f h)

theorem printAll_infix_print (tag : Tag) (attributes : List (Attribute × List Char))
    (children : List Node) : printAll children <:+: (Node.element tag attributes children).print :=
  ⟨openingTag tag attributes, closingTag tag, rfl⟩

theorem inside_infix_printAll {tag : Tag} {attributes : List (Attribute × List Char)}
    {children ns : List Node} (h : .element tag attributes children ∈ ns) :
    printAll children <:+: printAll ns :=
  (printAll_infix_print tag attributes children).trans (print_infix_printAll h)

theorem text_infix_printAll {tag : Tag} {name s : List Char} {ns : List Node}
    (h : .classed tag name [.text s] ∈ ns) : escape s <:+: printAll ns :=
  (print_infix_printAll (List.mem_singleton_self (Node.text s))).trans (inside_infix_printAll h)

theorem value_infix_openingTag (tag : Tag) {attributes : List (Attribute × List Char)}
    {a : Attribute × List Char} (h : a ∈ attributes) :
    escape a.2 <:+: openingTag tag attributes := by
  have hvalue : escape a.2 <:+: printAttribute a := ⟨' ' :: a.1.name ++ ['=', '\x27'], ['\x27'], rfl⟩
  exact (hvalue.trans (infix_flatMap printAttribute h)).trans ⟨'<' :: tag.name, ['>'], rfl⟩

theorem tagNames_append (tokens more : List Token) :
    tagNames (tokens ++ more) = tagNames tokens ++ tagNames more := by
  induction tokens with
  | nil => rfl
  | cons t tokens ih =>
    cases t with
    | opening name attributes => rw [List.cons_append, tagNames, tagNames, ih, List.cons_append]
    | closing name => rw [List.cons_append, tagNames, tagNames, ih, List.cons_append]
    | character c => rw [List.cons_append, tagNames, tagNames, ih]

def Node.tags (n : Node) : List (List Char) := tagNames n.tokens

def tagsAll (ns : List Node) : List (List Char) := ns.flatMap Node.tags

theorem tagNames_tokensAll (ns : List Node) : tagNames (tokensAll ns) = tagsAll ns := by
  induction ns with
  | nil => rfl
  | cons n ns ih =>
    rw [tokensAll, tagNames_append, ih, tagsAll, tagsAll, List.flatMap_cons, Node.tags]

@[simp] theorem tags_text (s : List Char) : (Node.text s).tags = [] := by
  rw [Node.tags, Node.tokens]
  induction escape s with
  | nil => rfl
  | cons c cs ih => exact ih

@[simp] theorem tags_element (tag : Tag) (attributes : List (Attribute × List Char))
    (children : List Node) :
    (Node.element tag attributes children).tags =
      tag.name :: (tagsAll children ++ ['/' :: tag.name]) := by
  rw [Node.tags, Node.tokens, List.cons_append, openingToken, tagNames, tagNames_append,
    tagNames_tokensAll]
  rfl

@[simp] theorem tags_classed (tag : Tag) (name : List Char) (children : List Node) :
    (Node.classed tag name children).tags = tag.name :: (tagsAll children ++ ['/' :: tag.name]) :=
  tags_element tag _ children

@[simp] theorem tagsAll_nil : tagsAll [] = [] := rfl

@[simp] theorem tagsAll_cons (n : Node) (ns : List Node) :
    tagsAll (n :: ns) = n.tags ++ tagsAll ns := rfl

@[simp] theorem tagsAll_append (ns ms : List Node) :
    tagsAll (ns ++ ms) = tagsAll ns ++ tagsAll ms := List.flatMap_append

theorem tagsAll_flatMap {α : Type} (xs : List α) (f : α → List Node) :
    tagsAll (xs.flatMap f) = xs.flatMap fun x => tagsAll (f x) := List.flatMap_assoc

theorem tagsAll_map {α : Type} (xs : List α) (f : α → Node) :
    tagsAll (xs.map f) = xs.flatMap fun x => (f x).tags := List.flatMap_map f Node.tags xs

end SourceReport.Markup

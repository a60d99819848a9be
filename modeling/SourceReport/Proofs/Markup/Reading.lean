import SourceReport.Proofs.Markup.Tokens

namespace SourceReport.Markup

/-- Tokens with the characters in the place of the references to them. -/
def dereference : List Token → List Token
  | .character '&' :: .character 'a' :: .character 'm' :: .character 'p' :: .character ';' ::
      rest => .character '&' :: dereference rest
  | .character '&' :: .character 'l' :: .character 't' :: .character ';' :: rest =>
    .character '<' :: dereference rest
  | .character '&' :: .character 'g' :: .character 't' :: .character ';' :: rest =>
    .character '>' :: dereference rest
  | .character '&' :: .character 'q' :: .character 'u' :: .character 'o' :: .character 't' ::
      .character ';' :: rest => .character '\x22' :: dereference rest
  | .character '&' :: .character '#' :: .character 'x' :: .character '2' :: .character '7' ::
      .character ';' :: rest => .character '\x27' :: dereference rest
  | t :: rest => t :: dereference rest
  | [] => []

theorem dereference_cons {t : Token} (h : t ≠ .character '&') (rest : List Token) :
    dereference (t :: rest) = t :: dereference rest := by
  rw [dereference.eq_def]
  split <;> simp_all

theorem dereference_escapeChar (c : Char) (rest : List Token) :
    dereference ((escapeChar c).map .character ++ rest) = .character c :: dereference rest := by
  unfold escapeChar
  split
  · rename_i h
    simp [h, dereference]
  split
  · rename_i h
    simp [h, dereference]
  split
  · rename_i h
    simp [h, dereference]
  split
  · rename_i h
    simp [h, dereference]
  split
  · rename_i h
    simp [h, dereference]
  · rename_i h _ _ _ _
    apply dereference_cons
    simpa using h

theorem dereference_escape (s : List Char) (rest : List Token) :
    dereference ((escape s).map .character ++ rest) = s.map .character ++ dereference rest := by
  induction s with
  | nil => rfl
  | cons c s ih =>
    have hsplit : (escape (c :: s)).map Token.character ++ rest =
        (escapeChar c).map .character ++ ((escape s).map .character ++ rest) := by
      simp [escape]
    rw [hsplit, dereference_escapeChar, ih]
    rfl

def read (s : List Char) : Option (List Token) := (tokenize s).map dereference

mutual

def Node.shown : Node → List Token
  | .text s => s.map .character
  | .element tag attributes children =>
    openingToken tag attributes :: shownAll children ++ [.closing tag.name]

def shownAll : List Node → List Token
  | [] => []
  | n :: ns => n.shown ++ shownAll ns

end

theorem shownAll_append (ns ms : List Node) :
    shownAll (ns ++ ms) = shownAll ns ++ shownAll ms := by
  induction ns with
  | nil => rfl
  | cons n ns ih => rw [List.cons_append, shownAll, shownAll, ih, List.append_assoc]

mutual

theorem dereference_tokens : ∀ (n : Node) (rest : List Token),
    dereference (n.tokens ++ rest) = n.shown ++ dereference rest
  | .text s, rest => dereference_escape s rest
  | .element tag attributes children, rest => by
    have hopening : openingToken tag attributes ≠ .character '&' := Token.noConfusion
    have hclosing : Token.closing tag.name ≠ .character '&' := Token.noConfusion
    rw [Node.tokens, Node.shown, List.append_assoc, List.cons_append, dereference_cons hopening,
      dereference_tokensAll children, List.singleton_append, dereference_cons hclosing,
      List.append_assoc, List.cons_append]
    rfl

theorem dereference_tokensAll : ∀ (ns : List Node) (rest : List Token),
    dereference (tokensAll ns ++ rest) = shownAll ns ++ dereference rest
  | [], _ => rfl
  | n :: ns, rest => by
    rw [tokensAll, shownAll, List.append_assoc, dereference_tokens n, dereference_tokensAll ns,
      List.append_assoc]

end

theorem read_printAll (ns : List Node) : read (printAll ns) = some (shownAll ns) := by
  have htokens : tokenize (printAll ns) = some (tokensAll ns) := by
    rw [tokenize, scan_printAll]
  have hread := dereference_tokensAll ns []
  rw [List.append_nil, dereference, List.append_nil] at hread
  rw [read, htokens, Option.map_some, hread]

mutual

theorem value_infix_print {name : List Char} {attributes : List (List Char × List Char)}
    {a : List Char × List Char} (ha : a ∈ attributes) :
    ∀ n : Node, .opening name attributes ∈ n.shown → a.2 <:+: n.print
  | .text s, h => by simp [Node.shown] at h
  | .element tag values children, h => by
    rw [Node.shown, List.mem_append, List.mem_cons, List.mem_singleton] at h
    rcases h with (h | h) | h
    · obtain ⟨-, rfl⟩ := Token.opening.inj h
      obtain ⟨b, hb, rfl⟩ := List.mem_map.mp ha
      exact (value_infix_openingTag tag hb).trans ⟨[], printAll children ++ closingTag tag,
        (List.append_assoc ..).symm⟩
    · exact (value_infix_printAll ha children h).trans (printAll_infix_print tag values children)
    · cases h

theorem value_infix_printAll {name : List Char} {attributes : List (List Char × List Char)}
    {a : List Char × List Char} (ha : a ∈ attributes) :
    ∀ ns : List Node, .opening name attributes ∈ shownAll ns → a.2 <:+: printAll ns
  | [], h => (List.not_mem_nil h).elim
  | n :: ns, h => by
    rw [shownAll, List.mem_append] at h
    rw [printAll]
    rcases h with h | h
    · exact (value_infix_print ha n h).trans (List.prefix_append _ _).isInfix
    · exact (value_infix_printAll ha ns h).trans (List.suffix_append _ _).isInfix

end

/-- The characters of tokens, each with the tags that are open around it, the innermost first. -/
def enclosed : (left : List Token) → List Token → List (List Token × Char)
  | _, [] => []
  | left, .character c :: tokens => (left, c) :: enclosed left tokens
  | left, .opening name attributes :: tokens => enclosed (.opening name attributes :: left) tokens
  | left, .closing _ :: tokens => enclosed left.tail tokens

theorem mem_of_mem_enclosed {left tags : List Token} {c : Char} {tokens : List Token}
    (h : (tags, c) ∈ enclosed left tokens) : ∀ t ∈ tags, t ∈ left ∨ t ∈ tokens := by
  intro t ht
  induction tokens generalizing left with
  | nil => cases h
  | cons u tokens ih =>
    cases u with
    | character d =>
      rw [enclosed, List.mem_cons] at h
      rcases h with h | h
      · obtain ⟨rfl, -⟩ := Prod.mk.inj h
        exact .inl ht
      · exact (ih h).imp_right (List.mem_cons_of_mem _)
    | opening name attributes =>
      rcases ih h with hleft | hrest
      · rcases List.mem_cons.mp hleft with rfl | hleft
        · exact .inr List.mem_cons_self
        · exact .inl hleft
      · exact .inr (List.mem_cons_of_mem _ hrest)
    | closing name =>
      rcases ih h with hleft | hrest
      · exact .inl (List.mem_of_mem_tail hleft)
      · exact .inr (List.mem_cons_of_mem _ hrest)

theorem enclosed_characters (left : List Token) (s : List Char) (rest : List Token) :
    enclosed left (s.map .character ++ rest) = s.map (left, ·) ++ enclosed left rest := by
  induction s with
  | nil => rfl
  | cons c s ih => rw [List.map_cons, List.cons_append, enclosed, ih, List.map_cons, List.cons_append]

mutual

/-- A tree leaves the tags open around it as they are. -/
theorem enclosed_shown_append : ∀ (n : Node) (left : List Token) (rest : List Token),
    enclosed left (n.shown ++ rest) = enclosed left n.shown ++ enclosed left rest
  | .text s, left, rest => by
    have halone := enclosed_characters left s []
    rw [List.append_nil, enclosed, List.append_nil] at halone
    rw [Node.shown, enclosed_characters, halone]
  | .element tag attributes children, left, rest => by
    have halone := enclosed_shownAll_append children (openingToken tag attributes :: left)
      [.closing tag.name]
    have hmore := enclosed_shownAll_append children (openingToken tag attributes :: left)
      (.closing tag.name :: rest)
    simp only [openingToken] at halone hmore
    simp only [Node.shown, List.append_assoc, List.cons_append, List.nil_append, openingToken,
      enclosed, halone, hmore, List.append_nil, List.tail_cons]

theorem enclosed_shownAll_append : ∀ (ns : List Node) (left : List Token) (rest : List Token),
    enclosed left (shownAll ns ++ rest) = enclosed left (shownAll ns) ++ enclosed left rest
  | [], _, _ => rfl
  | n :: ns, left, rest => by
    rw [shownAll, List.append_assoc, enclosed_shown_append n, enclosed_shownAll_append ns,
      enclosed_shown_append n, List.append_assoc]

end

def shownIn (left : List Token) (ns : List Node) : List (List Token × Char) :=
  enclosed left (shownAll ns)

section
variable (left : List Token)

@[simp] theorem shownIn_nil : shownIn left [] = [] := rfl

@[simp] theorem shownIn_append (ns ms : List Node) :
    shownIn left (ns ++ ms) = shownIn left ns ++ shownIn left ms := by
  rw [shownIn, shownAll_append, enclosed_shownAll_append]
  rfl

@[simp] theorem shownIn_text (s : List Char) (ns : List Node) :
    shownIn left (.text s :: ns) = s.map (left, ·) ++ shownIn left ns := by
  rw [shownIn, shownAll, Node.shown, enclosed_characters]
  rfl

@[simp] theorem shownIn_element (tag : Tag) (attributes : List (Attribute × List Char))
    (children ns : List Node) :
    shownIn left (.element tag attributes children :: ns) =
      shownIn (openingToken tag attributes :: left) children ++ shownIn left ns := by
  rw [shownIn, shownAll, enclosed_shown_append, Node.shown, List.cons_append, openingToken,
    enclosed, enclosed_shownAll_append, enclosed, enclosed, List.append_nil]
  rfl

end

def Token.character? : Token → Option Char
  | character c => some c
  | opening _ _ => none
  | closing _ => none

def characters (tokens : List Token) : List Char := tokens.filterMap Token.character?

theorem map_snd_enclosed (left : List Token) (tokens : List Token) :
    (enclosed left tokens).map Prod.snd = characters tokens := by
  induction tokens generalizing left with
  | nil => rfl
  | cons t tokens ih =>
    cases t with
    | opening name attributes => exact ih _
    | closing name => exact ih _
    | character c =>
      rw [enclosed, List.map_cons, ih]
      rfl

theorem characters_map_character (s : List Char) : characters (s.map .character) = s := by
  rw [characters, List.filterMap_map]
  exact List.filterMap_some

theorem characters_shownAll_append (ns ms : List Node) :
    characters (shownAll (ns ++ ms)) = characters (shownAll ns) ++ characters (shownAll ms) := by
  rw [shownAll_append, characters, List.filterMap_append]
  rfl

theorem characters_element (tag : Tag) (attributes : List (Attribute × List Char))
    (children : List Node) :
    characters (Node.element tag attributes children).shown = characters (shownAll children) := by
  simp [Node.shown, openingToken, characters, List.filterMap_cons, Token.character?]

/-- The characters up to where the tag ends that was open before the `depth` ones opened last. -/
def content : (depth : Nat) → List Token → List Char
  | _, [] => []
  | depth, .character c :: tokens => c :: content depth tokens
  | depth, .opening _ _ :: tokens => content (depth + 1) tokens
  | 0, .closing _ :: _ => []
  | depth + 1, .closing _ :: tokens => content depth tokens

/-- The characters in each of the elements with a name and attributes. -/
def contents (name : List Char) (attributes : List (List Char × List Char)) :
    List Token → List (List Char)
  | [] => []
  | .opening name' attributes' :: tokens =>
    if name' = name ∧ attributes' = attributes then
      content 0 tokens :: contents name attributes tokens
    else contents name attributes tokens
  | .closing _ :: tokens => contents name attributes tokens
  | .character _ :: tokens => contents name attributes tokens

theorem content_characters (depth : Nat) (s : List Char) (rest : List Token) :
    content depth (s.map .character ++ rest) = s ++ content depth rest := by
  induction s with
  | nil => rfl
  | cons c s ih => rw [List.map_cons, List.cons_append, content, ih, List.cons_append]

mutual

theorem content_shown : ∀ (n : Node) (depth : Nat) (rest : List Token),
    content depth (n.shown ++ rest) = characters n.shown ++ content depth rest
  | .text s, depth, rest => by
    rw [Node.shown, content_characters, characters_map_character]
  | .element tag attributes children, depth, rest => by
    have hchildren := content_shownAll children (depth + 1) (.closing tag.name :: rest)
    rw [characters_element]
    simp only [Node.shown, List.append_assoc, List.cons_append, List.nil_append, openingToken,
      content, hchildren]

theorem content_shownAll : ∀ (ns : List Node) (depth : Nat) (rest : List Token),
    content depth (shownAll ns ++ rest) = characters (shownAll ns) ++ content depth rest
  | [], _, _ => rfl
  | n :: ns, depth, rest => by
    rw [shownAll, List.append_assoc, content_shown n, content_shownAll ns, characters,
      characters, characters, List.filterMap_append, List.append_assoc]

end

section
variable (name : List Char) (attributes : List (List Char × List Char))

theorem contents_characters (s : List Char) (rest : List Token) :
    contents name attributes (s.map .character ++ rest) = contents name attributes rest := by
  induction s with
  | nil => rfl
  | cons c s ih => rw [List.map_cons, List.cons_append, contents, ih]

mutual

theorem contents_shown_append : ∀ (n : Node) (rest : List Token),
    contents name attributes (n.shown ++ rest) =
      contents name attributes n.shown ++ contents name attributes rest
  | .text s, rest => by
    have halone := contents_characters name attributes s []
    rw [List.append_nil, contents] at halone
    rw [Node.shown, contents_characters, halone, List.nil_append]
  | .element tag _ children, rest => by
    have hchildren := contents_shownAll_append children (.closing tag.name :: rest)
    have halone := contents_shownAll_append children [.closing tag.name]
    have hinside : ∀ more : List Token,
        content 0 (shownAll children ++ .closing tag.name :: more) =
          characters (shownAll children) := by
      intro more
      rw [content_shownAll, content, List.append_nil]
    simp only [Node.shown, List.append_assoc, List.cons_append, List.nil_append, openingToken,
      contents, hchildren, halone, hinside, List.append_nil]
    split <;> rfl

theorem contents_shownAll_append : ∀ (ns : List Node) (rest : List Token),
    contents name attributes (shownAll ns ++ rest) =
      contents name attributes (shownAll ns) ++ contents name attributes rest
  | [], _ => rfl
  | n :: ns, rest => by
    rw [shownAll, List.append_assoc, contents_shown_append n, contents_shownAll_append ns,
      contents_shown_append n, List.append_assoc]

end

def contentsIn (ns : List Node) : List (List Char) := contents name attributes (shownAll ns)

@[simp] theorem contentsIn_nil : contentsIn name attributes [] = [] := rfl

@[simp] theorem contentsIn_append (ns ms : List Node) :
    contentsIn name attributes (ns ++ ms) =
      contentsIn name attributes ns ++ contentsIn name attributes ms := by
  rw [contentsIn, shownAll_append, contents_shownAll_append]
  rfl

theorem contentsIn_flatMap {α : Type} (f : α → List Node) (xs : List α) :
    contentsIn name attributes (xs.flatMap f) =
      xs.flatMap fun x => contentsIn name attributes (f x) := by
  induction xs with
  | nil => rfl
  | cons x xs ih => rw [List.flatMap_cons, List.flatMap_cons, contentsIn_append, ih]

theorem contentsIn_mapIdx {α : Type} (f : Nat → α → List Node) (xs : List α) :
    contentsIn name attributes (xs.mapIdx f).flatten =
      (xs.mapIdx fun i x => contentsIn name attributes (f i x)).flatten := by
  induction xs generalizing f with
  | nil => rfl
  | cons x xs ih =>
    rw [List.mapIdx_cons, List.mapIdx_cons, List.flatten_cons, List.flatten_cons,
      contentsIn_append, ih]

@[simp] theorem contentsIn_text (s : List Char) (ns : List Node) :
    contentsIn name attributes (.text s :: ns) = contentsIn name attributes ns := by
  rw [contentsIn, shownAll, Node.shown, contents_characters]
  rfl

@[simp] theorem contentsIn_element (tag : Tag) (values : List (Attribute × List Char))
    (children ns : List Node) :
    contentsIn name attributes (.element tag values children :: ns) =
      (if openingToken tag values = .opening name attributes then
        [characters (shownAll children)] else []) ++
        (contentsIn name attributes children ++ contentsIn name attributes ns) := by
  have hchildren := contents_shownAll_append name attributes children [.closing tag.name]
  have hinside : content 0 (shownAll children ++ [.closing tag.name]) =
      characters (shownAll children) := by
    rw [content_shownAll, content, List.append_nil]
  rw [contentsIn, shownAll, contents_shown_append]
  simp only [Node.shown, List.cons_append, openingToken, contents, hchildren, hinside,
    List.append_nil, Token.opening.injEq, contentsIn]
  split <;> rfl

end

end SourceReport.Markup

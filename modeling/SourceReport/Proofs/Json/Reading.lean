import SourceReport.Proofs.Json.Scanning

namespace SourceReport.Json
open Text

mutual

/-- Whether the text of a value is the value's alone: its numbers are integers, and none of its
objects has two fields of one name. -/
def Plain : Json → Prop
  | real _ => False
  | arr items => PlainItems items
  | obj fields => (fields.map Prod.fst).Nodup ∧ PlainFields fields
  | _ => True

def PlainItems : List Json → Prop
  | [] => True
  | item :: rest => item.Plain ∧ PlainItems rest

def PlainFields : List (List Char × Json) → Prop
  | [] => True
  | (_, value) :: rest => value.Plain ∧ PlainFields rest

end

theorem setField_of_notMem {fields : List (List Char × Json)} {name : List Char}
    (h : name ∉ fields.map Prod.fst) (value : Json) :
    setField fields name value = fields ++ [(name, value)] := by
  induction fields with
  | nil => rfl
  | cons field fields ih =>
    rw [List.map_cons, List.mem_cons, not_or] at h
    rw [setField, if_neg (Ne.symm h.1), ih h.2, List.cons_append]

theorem foldl_setField {known fields : List (List Char × Json)}
    (h : ((known ++ fields).map Prod.fst).Nodup) :
    fields.foldl (fun fs f => setField fs f.1 f.2) known = known ++ fields := by
  induction fields generalizing known with
  | nil => rw [List.foldl_nil, List.append_nil]
  | cons field fields ih =>
    have hnew : field.1 ∉ known.map Prod.fst := by
      rw [List.map_append, List.nodup_append] at h
      intro hmem
      exact h.2.2 _ hmem _ List.mem_cons_self rfl
    rw [List.foldl_cons, setField_of_notMem hnew]
    have hsplit : known ++ field :: fields = known ++ [(field.1, field.2)] ++ fields := by simp
    rw [hsplit] at h ⊢
    exact ih h

theorem ofFields_of_nodup {fields : List (List Char × Json)}
    (h : (fields.map Prod.fst).Nodup) : ofFields fields = obj fields := by
  exact congrArg obj (@foldl_setField [] fields h)

theorem isSpace_of_mem_lineBreak {style : Style} {level : Nat} :
    ∀ c ∈ lineBreak style level, isSpace c = true := by
  intro c hc
  unfold lineBreak at hc
  split at hc
  · cases hc
  · rcases List.mem_cons.mp hc with rfl | hc
    · rfl
    · rw [List.eq_of_mem_replicate hc]
      rfl

theorem exists_separator (style : Style) (level : Nat) :
    ∃ blank, separator style level = ',' :: blank ∧ ∀ c ∈ blank, isSpace c = true := by
  unfold separator
  split
  · exact ⟨_, rfl, isSpace_of_mem_lineBreak⟩
  · refine ⟨_, rfl, ?_⟩
    intro c hc
    rw [List.mem_singleton.mp hc]
    rfl

theorem le_length_flatMap_escapeChar (s : List Char) :
    s.length ≤ (s.flatMap escapeChar).length := by
  have hpos : ∀ c, 1 ≤ (escapeChar c).length := by
    intro c
    fun_cases escapeChar c <;> simp
  induction s with
  | nil => exact Nat.le_refl _
  | cons c s ih =>
    rw [List.flatMap_cons, List.length_append, List.length_cons]
    have := hpos c
    omega

theorem exists_head_printAt (style : Style) (level : Nat) {j : Json} (h : j.Plain) :
    ∃ c cs, j.printAt style level = c :: cs ∧ isSpace c = false ∧ c ≠ ']' := by
  cases j with
  | null => exact ⟨_, _, rfl, by decide, by decide⟩
  | bool value => cases value <;> exact ⟨_, _, rfl, by decide, by decide⟩
  | num n =>
    obtain ⟨c, cs, hc, hdigit | rfl⟩ := exists_head_decimal n
    · refine ⟨c, cs, hc, ?_, ?_⟩
      · cases hspace : isSpace c with
        | false => rfl
        | true => rw [(delimits_of_isSpace hspace []).1] at hdigit; cases hdigit
      · rintro rfl
        cases hdigit
    · exact ⟨_, cs, hc, by decide, by decide⟩
  | real written => exact h.elim
  | str s => exact ⟨_, _, rfl, by decide, by decide⟩
  | arr items =>
    rw [printAt, enclose]
    split <;> exact ⟨_, _, rfl, by decide, by decide⟩
  | obj fields =>
    rw [printAt, enclose]
    split <;> exact ⟨_, _, rfl, by decide, by decide⟩

theorem readValue?_decimal (fuel : Nat) (n : Int) {rest : List Char} (hr : Delimits rest) :
    readValue? (fuel + 1) (decimal n ++ rest) = some (num n, rest) := by
  obtain ⟨c, cs, hc, hhead⟩ := exists_head_decimal n
  have hne : ∀ d, d.isDigit = false → d ≠ '-' → c ≠ d := by
    rintro d hd hminus rfl
    rcases hhead with h | h
    · rw [hd] at h
      cases h
    · exact hminus h
  rw [← readAtom?_decimal n hr, hc, List.cons_append, readValue?]
  all_goals
    intro rest heq
    exact hne _ (by decide) (by decide) (List.cons.inj heq).1

section
variable {fuel : Nat} {blank rest : List Char} (hb : ∀ c ∈ blank, isSpace c = true)
include hb

theorem readValue?_items {s : List Char} {items : List Json}
    (hs : ∃ c cs, s = c :: cs ∧ isSpace c = false ∧ c ≠ ']')
    (h : readItems? fuel s = some (items, rest)) :
    readValue? (fuel + 1) ('[' :: (blank ++ s)) = some (arr items, rest) := by
  obtain ⟨c, cs, rfl, hspace, hc⟩ := hs
  rw [readValue?, skipSpace_append hb, skipSpace_cons hspace]
  split
  · exact absurd (List.cons.inj ‹_›).1 hc
  · rw [h, Option.map_some]

theorem readItems?_last {s : List Char} {item : Json}
    (h : readValue? fuel s = some (item, blank ++ ']' :: rest)) :
    readItems? (fuel + 1) s = some ([item], rest) := by
  simp only [readItems?, h, Option.bind_eq_bind, Option.bind_some, skipSpace_append hb]
  rfl

theorem readItems?_cons {s t : List Char} {item : Json} {items : List Json}
    (h : readValue? fuel s = some (item, ',' :: (blank ++ t)))
    (ht : skipSpace t = t) (hmore : readItems? fuel t = some (items, rest)) :
    readItems? (fuel + 1) s = some (item :: items, rest) := by
  have hcomma : skipSpace (',' :: (blank ++ t)) = ',' :: (blank ++ t) :=
    skipSpace_cons (by decide) _
  simp only [readItems?, h, Option.bind_eq_bind, Option.bind_some, hcomma, skipSpace_append hb, ht,
    hmore]
  rfl

theorem readValue?_fields {s : List Char} {fields : List (List Char × Json)}
    (hs : ∃ t, s = '\x22' :: t) (hn : (fields.map Prod.fst).Nodup)
    (h : readFields? fuel s = some (fields, rest)) :
    readValue? (fuel + 1) ('\x7b' :: (blank ++ s)) = some (obj fields, rest) := by
  obtain ⟨t, rfl⟩ := hs
  rw [readValue?, skipSpace_append hb, skipSpace_cons (by decide)]
  split
  · cases ‹_›
  · rw [h, Option.map_some, ← ofFields_of_nodup hn]

omit hb in
theorem readFields?_value {name s after : List Char} {value : Json} (hname : name.length < fuel)
    (hs : skipSpace s = s) (h : readValue? fuel s = some (value, after)) :
    readFields? (fuel + 1) (printString name ++ ':' :: ' ' :: s) =
      match skipSpace after with
      | '\x7d' :: rest => some ([(name, value)], rest)
      | ',' :: rest =>
        (readFields? fuel (skipSpace rest)).bind fun (fields, rest) =>
          some ((name, value) :: fields, rest)
      | _ => none := by
  have hcolon : skipSpace (':' :: ' ' :: s) = ':' :: ' ' :: s := skipSpace_cons (by decide) _
  have hvalue : skipSpace (' ' :: s) = s := hs
  simp only [printString, List.append_assoc, List.cons_append, List.nil_append, readFields?,
    readString?_printed hname, Option.bind_eq_bind, Option.bind_some, hcolon, hvalue, h]
  rfl

theorem readFields?_last {name s : List Char} {value : Json} (hname : name.length < fuel)
    (hs : skipSpace s = s)
    (h : readValue? fuel s = some (value, blank ++ '\x7d' :: rest)) :
    readFields? (fuel + 1) (printString name ++ ':' :: ' ' :: s) =
      some ([(name, value)], rest) := by
  rw [readFields?_value hname hs h, skipSpace_append hb]
  rfl

theorem readFields?_cons {name s t : List Char} {value : Json}
    {fields : List (List Char × Json)} (hname : name.length < fuel) (hs : skipSpace s = s)
    (h : readValue? fuel s = some (value, ',' :: (blank ++ t)))
    (ht : skipSpace t = t) (hmore : readFields? fuel t = some (fields, rest)) :
    readFields? (fuel + 1) (printString name ++ ':' :: ' ' :: s) =
      some ((name, value) :: fields, rest) := by
  rw [readFields?_value hname hs h, skipSpace_cons (by decide)]
  simp only [skipSpace_append hb, ht, hmore, Option.bind_some]

end

theorem enclose_cons (style : Style) (level : Nat) (opening closing : Char) (item : List Char)
    (items : List (List Char)) :
    enclose style level opening closing (item :: items) =
      opening :: (lineBreak style (level + 1) ++
        (List.intercalate (separator style (level + 1)) (item :: items) ++
          (lineBreak style level ++ [closing]))) := by
  simp [enclose]

theorem length_intercalate_cons_cons {sep item next : List Char} {items : List (List Char)} :
    (List.intercalate sep (item :: next :: items)).length =
      item.length + sep.length + (List.intercalate sep (next :: items)).length := by
  rw [List.intercalate_cons_cons, List.length_append, List.length_append]

theorem intercalate_append {style : Style} {level : Nat} (item next : List Char)
    (items : List (List Char)) {blank : List Char}
    (h : separator style level = ',' :: blank) (rest : List Char) :
    List.intercalate (separator style level) (item :: next :: items) ++ rest =
      item ++ ',' ::
        (blank ++ (List.intercalate (separator style level) (next :: items) ++ rest)) := by
  rw [List.intercalate_cons_cons]
  conv => lhs; arg 1; arg 1; rw [h]
  simp

theorem exists_head_printItems (style : Style) (level : Nat) {item : Json} (items : List Json)
    (h : item.Plain) (rest : List Char) :
    ∃ c cs, List.intercalate (separator style level)
        (printItems style level (item :: items)) ++ rest = c :: cs ∧
      isSpace c = false ∧ c ≠ ']' := by
  obtain ⟨c, cs, hc, hne⟩ := exists_head_printAt style level h
  rw [printItems, hc]
  cases hmore : printItems style level items with
  | nil =>
    rw [List.intercalate_singleton]
    exact ⟨c, _, rfl, hne⟩
  | cons next more =>
    rw [List.intercalate_cons_cons, List.append_assoc, List.append_assoc]
    exact ⟨c, _, rfl, hne⟩

section
variable {style : Style} (hstyle : style.sortKeys = false)
include hstyle

theorem orderFields_nil : orderFields style [] = [] := by
  simp [orderFields, hstyle]

theorem orderFields_printFields_cons (level : Nat) (name : List Char) (value : Json)
    (fields : List (List Char × Json)) :
    orderFields style (printFields style level ((name, value) :: fields)) =
      (printString name ++ ':' :: ' ' :: value.printAt style level) ::
        orderFields style (printFields style level fields) := by
  simp [orderFields, printFields, hstyle]

theorem exists_head_printFields (level : Nat) (name : List Char) (value : Json)
    (fields : List (List Char × Json)) (rest : List Char) :
    ∃ t, List.intercalate (separator style level)
      (orderFields style (printFields style level ((name, value) :: fields))) ++ rest =
        '\x22' :: t := by
  rw [orderFields_printFields_cons hstyle]
  cases orderFields style (printFields style level fields) with
  | nil => exact ⟨_, rfl⟩
  | cons next more =>
    rw [List.intercalate_cons_cons]
    exact ⟨_, rfl⟩

end

-- By recursion on the value. The fuel is at least the length of what is still to be read: each step
-- takes one unit and leaves out a bracket or a separator, which has at least one character.
mutual

theorem readValue?_printAt {style : Style} (hstyle : style.sortKeys = false) :
    ∀ (j : Json) (level : Nat) {fuel : Nat} {rest : List Char}, j.Plain →
    (j.printAt style level).length ≤ fuel → Delimits rest →
    readValue? fuel (j.printAt style level ++ rest) = some (j, rest)
  | j, level, 0, rest, hj, hfuel, _ => by
    obtain ⟨c, cs, hc, -⟩ := exists_head_printAt style level hj
    rw [hc, List.length_cons] at hfuel
    omega
  | null, _, fuel + 1, rest, _, _, _ => rfl
  | bool true, _, fuel + 1, rest, _, _, _ => rfl
  | bool false, _, fuel + 1, rest, _, _, _ => rfl
  | num n, level, fuel + 1, rest, _, _, hr => readValue?_decimal fuel n hr
  | str s, level, fuel + 1, rest, _, hfuel, _ => by
    have hlength : s.length < fuel := by
      have := le_length_flatMap_escapeChar s
      simp only [printAt, printString, List.cons_append, List.length_cons, List.length_append,
        List.length_nil] at hfuel
      omega
    simp only [printAt, printString, List.append_assoc, List.cons_append, List.nil_append,
      readValue?, readString?_printed hlength, Option.map_some]
  | arr [], level, fuel + 1, rest, _, _, _ => rfl
  | arr (item :: items), level, fuel + 1, rest, hj, hfuel, _ => by
    rw [printAt, printItems, enclose_cons, ← printItems] at hfuel ⊢
    simp only [List.length_cons, List.length_append, List.length_nil] at hfuel
    rw [List.cons_append, List.append_assoc, List.append_assoc, List.append_assoc]
    exact readValue?_items isSpace_of_mem_lineBreak (exists_head_printItems style _ items hj.1 _)
      (readItems?_printItems hstyle item items (level + 1) hj (by omega) isSpace_of_mem_lineBreak)
  | obj [], level, fuel + 1, rest, _, _, _ => by
    rw [printAt, printFields, orderFields_nil hstyle]
    rfl
  | obj ((name, value) :: fields), level, fuel + 1, rest, hj, hfuel, _ => by
    rw [printAt, orderFields_printFields_cons hstyle, enclose_cons,
      ← orderFields_printFields_cons hstyle] at hfuel ⊢
    simp only [List.length_cons, List.length_append, List.length_nil] at hfuel
    rw [List.cons_append, List.append_assoc, List.append_assoc, List.append_assoc]
    exact readValue?_fields isSpace_of_mem_lineBreak
      (exists_head_printFields hstyle _ name value fields _) hj.1
      (readFields?_printFields hstyle name value fields (level + 1) hj.2 (by omega)
        isSpace_of_mem_lineBreak)

theorem readItems?_printItems {style : Style} (hstyle : style.sortKeys = false) :
    ∀ (item : Json) (items : List Json) (level : Nat) {fuel : Nat} {blank rest : List Char},
    PlainItems (item :: items) →
    (List.intercalate (separator style level) (printItems style level (item :: items))).length
      < fuel → (∀ c ∈ blank, isSpace c = true) →
    readItems? fuel (List.intercalate (separator style level)
      (printItems style level (item :: items)) ++ (blank ++ ']' :: rest)) =
        some (item :: items, rest)
  | item, [], level, fuel + 1, blank, rest, hj, hfuel, hb => by
    rw [printItems, printItems, List.intercalate_singleton] at hfuel ⊢
    exact readItems?_last hb (readValue?_printAt hstyle item level hj.1 (by omega)
      (delimits_append hb (delimits_of_mem (by decide) _)))
  | item, next :: items, level, fuel + 1, blank, rest, hj, hfuel, hb => by
    obtain ⟨space, hcomma, hspace⟩ := exists_separator style level
    obtain ⟨c, cs, hc, hne, -⟩ :=
      exists_head_printItems style level items hj.2.1 (blank ++ ']' :: rest)
    rw [printItems, printItems, length_intercalate_cons_cons, hcomma, List.length_cons, ← hcomma,
      ← printItems] at hfuel
    rw [printItems, printItems, intercalate_append _ _ _ hcomma, ← printItems]
    apply readItems?_cons hspace
    · exact readValue?_printAt hstyle item level hj.1 (by omega) (delimits_of_mem (by decide) _)
    · rw [hc, skipSpace_cons hne]
    · exact readItems?_printItems hstyle next items level hj.2 (by omega) hb
  | _, _, _, 0, _, _, _, hfuel, _ => absurd hfuel (Nat.not_lt_zero _)

theorem readFields?_printFields {style : Style} (hstyle : style.sortKeys = false) :
    ∀ (name : List Char) (value : Json) (fields : List (List Char × Json)) (level : Nat)
    {fuel : Nat} {blank rest : List Char}, PlainFields ((name, value) :: fields) →
    (List.intercalate (separator style level)
      (orderFields style (printFields style level ((name, value) :: fields)))).length
      < fuel → (∀ c ∈ blank, isSpace c = true) →
    readFields? fuel (List.intercalate (separator style level)
      (orderFields style (printFields style level ((name, value) :: fields))) ++
        (blank ++ '\x7d' :: rest)) = some ((name, value) :: fields, rest)
  | name, value, [], level, fuel + 1, blank, rest, hj, hfuel, hb => by
    have hname := le_length_flatMap_escapeChar name
    obtain ⟨c, cs, hc, hne, -⟩ := exists_head_printAt style level hj.1
    rw [orderFields_printFields_cons hstyle, printFields, orderFields_nil hstyle,
      List.intercalate_singleton] at hfuel ⊢
    simp only [printString, List.cons_append, List.length_cons, List.length_append,
      List.length_nil] at hfuel
    rw [List.append_assoc, List.cons_append, List.cons_append]
    apply readFields?_last hb (by omega)
    · rw [hc, List.cons_append, skipSpace_cons hne]
    · exact readValue?_printAt hstyle value level hj.1 (by omega)
        (delimits_append hb (delimits_of_mem (by decide) _))
  | name, value, (name', value') :: fields, level, fuel + 1, blank, rest, hj, hfuel, hb => by
    have hname := le_length_flatMap_escapeChar name
    obtain ⟨space, hcomma, hspace⟩ := exists_separator style level
    obtain ⟨c, cs, hc, hne, -⟩ := exists_head_printAt style level hj.1
    obtain ⟨t, ht⟩ :=
      exists_head_printFields hstyle level name' value' fields (blank ++ '\x7d' :: rest)
    rw [orderFields_printFields_cons hstyle, orderFields_printFields_cons hstyle,
      length_intercalate_cons_cons, ← orderFields_printFields_cons hstyle, hcomma,
      List.length_cons, ← hcomma] at hfuel
    simp only [printString, List.cons_append, List.length_cons, List.length_append,
      List.length_nil] at hfuel
    rw [orderFields_printFields_cons hstyle, orderFields_printFields_cons hstyle,
      intercalate_append _ _ _ hcomma, ← orderFields_printFields_cons hstyle, List.append_assoc,
      List.cons_append, List.cons_append]
    apply readFields?_cons hspace (by omega)
    · rw [hc, List.cons_append, skipSpace_cons hne]
    · exact readValue?_printAt hstyle value level hj.1 (by omega) (delimits_of_mem (by decide) _)
    · rw [ht, skipSpace_cons (by decide)]
    · exact readFields?_printFields hstyle name' value' fields level hj.2 (by omega) hb
  | _, _, _, _, 0, _, _, _, hfuel, _ => absurd hfuel (Nat.not_lt_zero _)

end

/-- What was printed is read back, on one line or indented. -/
theorem read?_print {style : Style} (hstyle : style.sortKeys = false) {j : Json} (hj : j.Plain) :
    read? (j.print style) = some j := by
  obtain ⟨c, cs, hc, hne, -⟩ := exists_head_printAt style 0 hj
  have hspace : skipSpace (j.print style) = j.print style := by
    rw [print, hc, skipSpace_cons hne]
  have hread : readValue? (2 * (j.print style).length + 2) (j.print style ++ []) = some (j, []) :=
    readValue?_printAt hstyle j 0 hj (by rw [print]; omega) trivial
  rw [List.append_nil] at hread
  rw [read?, hspace, hread]
  rfl

end SourceReport.Json

import SourceReport.Proofs.Frame.Width

namespace SourceReport.Frame
open Text

def partLines (l : Layout) (e : Excerpt) : List BlockLine :=
  if e.isEmpty then []
  else if e.text.isEmpty then [.place e.locator]
  else body l e

def openingLine (e : Excerpt) : BlockLine := .opening (e.source.map fun _ => e.locator)

theorem Role.opens_ofIndex {index count : Nat} (h : index < count) :
    (Role.ofIndex index count).opens = decide (index = 0) := by
  unfold Role.ofIndex
  split
  · have h0 : index = 0 := by omega
    simp [h0, Role.opens]
  · split
    · have h0 : index = 0 := by omega
      simp [h0, Role.opens]
    · have h0 : index ≠ 0 := by omega
      split <;> simp [h0, Role.opens]

theorem Role.closes_ofIndex {index count : Nat} (h : index < count) :
    (Role.ofIndex index count).closes = decide (index + 1 = count) := by
  unfold Role.ofIndex
  split
  · have hlast : index + 1 = count := by omega
    simp [hlast, Role.closes]
  · split
    · have hlast : index + 1 ≠ count := by omega
      simp [hlast, Role.closes]
    · split
      · have hlast : index + 1 = count := by omega
        simp [hlast, Role.closes]
      · have hlast : index + 1 ≠ count := by omega
        simp [hlast, Role.closes]

theorem partLines_of_text {l : Layout} {e : Excerpt} (h : e.text.isEmpty = false) :
    partLines l e = body l e := by
  simp [partLines, Excerpt.isEmpty_eq_false_of_text h, h]

theorem text_of_isEmpty {e : Excerpt} (h : e.isEmpty = true) : e.text.isEmpty = true := by
  simp only [Excerpt.isEmpty, Bool.and_eq_true] at h
  exact h.1.1

theorem framed_append (xs ys : List Excerpt) : framed (xs ++ ys) = framed xs ++ framed ys :=
  List.filter_append xs ys

theorem framed_cons_of_text {e : Excerpt} (h : e.text.isEmpty = false) (xs : List Excerpt) :
    framed (e :: xs) = e :: framed xs := by
  simp [framed, h]

theorem framed_cons_of_not_text {e : Excerpt} (h : e.text.isEmpty = true) (xs : List Excerpt) :
    framed (e :: xs) = framed xs := by
  simp [framed, h]

section
variable (l : Layout) (note : Option (List Char)) (count : Nat)

theorem excerptLines_of_not_text {e : Excerpt} (h : e.text.isEmpty = true) (role : Role) :
    excerptLines l role note e = partLines l e := by
  unfold excerptLines partLines
  rw [if_pos h, if_pos h]

theorem excerptLines_of_text {e : Excerpt} (h : e.text.isEmpty = false) {index : Nat}
    (hi : index < count) :
    excerptLines l (.ofIndex index count) note e =
      (if index = 0 then [openingLine e] else []) ++ partLines l e ++
        (if index + 1 = count then [.closing note] else []) := by
  unfold excerptLines
  rw [Excerpt.isEmpty_eq_false_of_text h, h, Role.opens_ofIndex hi, Role.closes_ofIndex hi,
    partLines_of_text h]
  simp [openingLine]

theorem sharedLines_append (xs ys : List Excerpt) (index : Nat) :
    sharedLines l note count index (xs ++ ys) =
      sharedLines l note count index xs ++
        sharedLines l note count (index + (framed xs).length) ys := by
  induction xs generalizing index with
  | nil => simp [sharedLines, framed]
  | cons e xs ih =>
    rw [List.cons_append, sharedLines, sharedLines]
    cases he : e.text.isEmpty with
    | true => rw [if_pos rfl, if_pos rfl, ih, framed_cons_of_not_text he, List.append_assoc]
    | false =>
      rw [if_neg (by decide), if_neg (by decide), ih, framed_cons_of_text he, List.length_cons,
        List.append_assoc, Nat.add_assoc, Nat.add_comm 1]

theorem sharedLines_between {xs : List Excerpt} {index : Nat}
    (h : framed xs = [] ∨ 0 < index ∧ index + (framed xs).length < count) :
    sharedLines l note count index xs = xs.flatMap (partLines l) := by
  induction xs generalizing index with
  | nil => rfl
  | cons e xs ih =>
    rw [sharedLines, List.flatMap_cons]
    cases he : e.text.isEmpty with
    | true =>
      rw [framed_cons_of_not_text he] at h
      rw [if_pos rfl, excerptLines_of_not_text l note he, ih h]
    | false =>
      rw [framed_cons_of_text he, List.length_cons] at h
      obtain h | ⟨h0, hlt⟩ := h
      · cases h
      · have hfirst : ¬ index = 0 := by omega
        have hlast : ¬ index + 1 = count := by omega
        rw [if_neg (by decide), excerptLines_of_text l note count he (by omega), if_neg hfirst,
          if_neg hlast, ih (.inr ⟨by omega, by omega⟩), List.nil_append, List.append_nil]

theorem sharedLines_cons_of_text {e : Excerpt} (h : e.text.isEmpty = false) (xs : List Excerpt)
    {index : Nat} (hi : index < count) :
    sharedLines l note count index (e :: xs) =
      (if index = 0 then [openingLine e] else []) ++ partLines l e ++
        (if index + 1 = count then [.closing note] else []) ++
        sharedLines l note count (index + 1) xs := by
  rw [sharedLines, h, if_neg (by decide), excerptLines_of_text l note count h hi]

theorem sharedLines_closing {between rest : List Excerpt} {last : Excerpt} {index : Nat}
    (h0 : 0 < index) (hcount : count = index + (framed between).length + 1)
    (hlast : last.text.isEmpty = false) (hrest : framed rest = []) :
    sharedLines l note count index (between ++ last :: rest) =
      (between ++ [last]).flatMap (partLines l) ++ .closing note :: rest.flatMap (partLines l) := by
  have hfirst : ¬ index + (framed between).length = 0 := by omega
  rw [sharedLines_append, sharedLines_between l note count (.inr ⟨h0, by omega⟩),
    sharedLines_cons_of_text l note count hlast rest (by omega), if_neg hfirst,
    if_pos hcount.symm, sharedLines_between l note count (.inl hrest)]
  simp

end

theorem exists_first_framed {excerpts : List Excerpt} (h : framed excerpts ≠ []) :
    ∃ front first rest, excerpts = front ++ first :: rest ∧ framed front = [] ∧
      first.text.isEmpty = false := by
  induction excerpts with
  | nil => exact absurd rfl h
  | cons e excerpts ih =>
    cases he : e.text.isEmpty with
    | false => exact ⟨[], e, excerpts, rfl, rfl, he⟩
    | true =>
      rw [framed_cons_of_not_text he] at h
      obtain ⟨front, first, rest, rfl, hfront, hfirst⟩ := ih h
      exact ⟨e :: front, first, rest, rfl, (framed_cons_of_not_text he front).trans hfront, hfirst⟩

theorem exists_last_framed {excerpts : List Excerpt} (h : framed excerpts ≠ []) :
    ∃ front last rest, excerpts = front ++ last :: rest ∧ framed rest = [] ∧
      last.text.isEmpty = false := by
  induction excerpts with
  | nil => exact absurd rfl h
  | cons e excerpts ih =>
    by_cases hrest : framed excerpts = []
    · cases he : e.text.isEmpty with
      | false => exact ⟨[], e, excerpts, rfl, hrest, he⟩
      | true => exact absurd ((framed_cons_of_not_text he excerpts).trans hrest) h
    · obtain ⟨front, last, rest, rfl, hlast, htext⟩ := ih hrest
      exact ⟨e :: front, last, rest, rfl, hlast, htext⟩

/-- The lines of excerpts of which `shown` has the frame: those before and after it are without
text, and it starts and ends with one that has text. -/
theorem sharedLines_eq (l : Layout) (note : Option (List Char)) {excerpts : List Excerpt}
    (h : framed excerpts ≠ []) :
    ∃ front first shown last rest, excerpts = front ++ shown ++ rest ∧
      framed front = [] ∧ framed rest = [] ∧
      shown.head? = some first ∧ first.text.isEmpty = false ∧
      shown.getLast? = some last ∧ last.text.isEmpty = false ∧
      sharedLines l note (framed excerpts).length 0 excerpts =
        front.flatMap (partLines l) ++ openingLine first :: shown.flatMap (partLines l) ++
          .closing note :: rest.flatMap (partLines l) := by
  obtain ⟨front, first, more, rfl, hfront, hfirst⟩ := exists_first_framed h
  have hcount : (framed (front ++ first :: more)).length = (framed more).length + 1 := by
    rw [framed_append, hfront, framed_cons_of_text hfirst, List.nil_append, List.length_cons]
  have hopen : sharedLines l note ((framed more).length + 1) 0 (front ++ first :: more) =
      front.flatMap (partLines l) ++ (openingLine first :: partLines l first ++
        (if 0 + 1 = (framed more).length + 1 then [.closing note] else []) ++
          sharedLines l note ((framed more).length + 1) (0 + 1) more) := by
    rw [sharedLines_append, sharedLines_between l note _ (.inl hfront), hfront, List.length_nil,
      sharedLines_cons_of_text l note _ hfirst more (by omega), if_pos rfl, List.singleton_append]
  rw [hcount, hopen]
  by_cases hmore : framed more = []
  · refine ⟨front, first, [first], first, more, by simp, hfront, hmore, rfl, hfirst, rfl, hfirst,
      ?_⟩
    rw [sharedLines_between l note _ (.inl hmore), hmore, List.length_nil, if_pos rfl]
    simp
  · obtain ⟨between, last, rest, rfl, hrest, hlast⟩ := exists_last_framed hmore
    have hlength : (framed (between ++ last :: rest)).length = (framed between).length + 1 := by
      rw [framed_append, framed_cons_of_text hlast, hrest, List.length_append,
        List.length_singleton]
    have hne : ¬ 0 + 1 = (framed between).length + 1 + 1 := by omega
    refine ⟨front, first, (first :: between) ++ [last], last, rest, by simp, hfront, hrest, rfl,
      hfirst, List.getLast?_concat, hlast, ?_⟩
    rw [hlength, if_neg hne, sharedLines_closing l note _ (by decide) (by omega) hlast hrest]
    simp

namespace BlockLine

def isOpening : BlockLine → Bool
  | opening _ => true
  | _ => false

def isClosing : BlockLine → Bool
  | closing _ => true
  | _ => false

/-- The glyph of the frame on a line; the place of an excerpt without text has none. -/
def frameGlyph (g : Glyphs) : BlockLine → Option Char
  | opening none => some g.opening
  | opening (some _) => g.openingSource.head?
  | row .. => some g.row
  | strip _ => some g.strip
  | closing none => some g.closing
  | closing (some _) => g.closingNote.head?
  | place _ => none

theorem getElem?_numberColumns {margin : Nat} {number : List Char} (h : number.length ≤ margin)
    (glyph : Char) (rest : List Char) :
    (numberColumns margin number ++ ' ' :: glyph :: rest)[margin + 1]? = some glyph := by
  rw [List.getElem?_append_right (by rw [length_numberColumns h]; omega), length_numberColumns h,
    Nat.add_sub_cancel_left]
  rfl

theorem getElem?_print {l : Layout} {margin : Nat} (hl : l.margin = margin) {b : BlockLine}
    (hb : ∀ number cutBefore shown cutAfter, b = .row number cutBefore shown cutAfter →
      (number.elim [] decimal).length ≤ margin)
    {glyph : Char} (hg : b.frameGlyph l.glyphs = some glyph) :
    (b.print l)[margin + 1]? = some glyph := by
  have hnone : ([] : List Char).length ≤ margin := Nat.zero_le margin
  cases b with
  | opening locator =>
    cases locator with
    | none =>
      obtain rfl := Option.some.inj hg
      rw [print, hl]
      exact getElem?_numberColumns hnone _ _
    | some locator =>
      obtain ⟨rest, hrest⟩ := List.head?_eq_some_iff.mp hg
      rw [print, hl, hrest]
      simpa using getElem?_numberColumns hnone glyph (rest ++ (locator ++ [']']))
  | row number cutBefore shown cutAfter =>
    obtain rfl := Option.some.inj hg
    rw [print, hl]
    simpa using getElem?_numberColumns (hb _ _ _ _ rfl) l.glyphs.row _
  | strip drawn =>
    obtain rfl := Option.some.inj hg
    rw [print, hl]
    simpa using getElem?_numberColumns hnone l.glyphs.strip _
  | closing note =>
    cases note with
    | none =>
      obtain rfl := Option.some.inj hg
      rw [print, hl]
      exact getElem?_numberColumns hnone _ _
    | some note =>
      obtain ⟨rest, hrest⟩ := List.head?_eq_some_iff.mp hg
      rw [print, hl, hrest]
      simpa using getElem?_numberColumns hnone glyph (rest ++ (note ++ [']']))
  | place locator => cases hg

end BlockLine

theorem mem_body_cases {l : Layout} {e : Excerpt} {b : BlockLine} (hb : b ∈ body l e) :
    (∃ i, i < e.logicalLines.length ∧ ∃ cutBefore shown cutAfter,
      b = .row (e.lineNumber.map (· + (i : Int))) cutBefore shown cutAfter) ∨
    ∃ drawn, b = .strip drawn := by
  obtain ⟨i, hi, row, -, hb⟩ := exists_of_mem_body hb
  rcases List.mem_cons.mp hb with rfl | hb
  · exact .inl ⟨i, hi, _, _, _, rfl⟩
  · obtain ⟨s, -, hb⟩ := List.mem_flatMap.mp hb
    obtain ⟨drawn, -, rfl⟩ := List.mem_map.mp hb
    exact .inr ⟨drawn, rfl⟩

theorem not_end_of_mem_partLines {l : Layout} {excerpts : List Excerpt} {b : BlockLine}
    (hb : b ∈ excerpts.flatMap (partLines l)) : b.isOpening = false ∧ b.isClosing = false := by
  obtain ⟨e, -, hb⟩ := List.mem_flatMap.mp hb
  unfold partLines at hb
  split at hb
  · cases hb
  · split at hb
    · rw [List.mem_singleton.mp hb]
      exact ⟨rfl, rfl⟩
    · obtain ⟨i, -, _, _, _, rfl⟩ | ⟨drawn, rfl⟩ := mem_body_cases hb
      · exact ⟨rfl, rfl⟩
      · exact ⟨rfl, rfl⟩

theorem countP_partLines (l : Layout) (excerpts : List Excerpt) :
    (excerpts.flatMap (partLines l)).countP BlockLine.isOpening = 0 ∧
    (excerpts.flatMap (partLines l)).countP BlockLine.isClosing = 0 := by
  constructor
  · refine List.countP_eq_zero.mpr fun b hb => ?_
    rw [(not_end_of_mem_partLines hb).1]
    decide
  · refine List.countP_eq_zero.mpr fun b hb => ?_
    rw [(not_end_of_mem_partLines hb).2]
    decide

theorem foldl_max_mem (widths : List Nat) (start : Nat) :
    widths.foldl max start = start ∨ widths.foldl max start ∈ widths := by
  induction widths generalizing start with
  | nil => exact .inl rfl
  | cons w ws ih =>
    rw [List.foldl_cons]
    rcases ih (max start w) with h | h
    · rw [h]
      rcases Nat.le_total start w with hle | hle
      · rw [Nat.max_eq_right hle]
        exact .inr List.mem_cons_self
      · exact .inl (Nat.max_eq_left hle)
    · exact .inr (List.mem_cons_of_mem _ h)

theorem exists_sharedMargin {excerpts : List Excerpt} (h : framed excerpts ≠ []) :
    ∃ e ∈ framed excerpts, e.margin = sharedMargin excerpts := by
  rcases foldl_max_mem ((framed excerpts).map Excerpt.margin) 0 with hzero | hmem
  · obtain ⟨e, he⟩ := List.exists_mem_of_ne_nil _ h
    have hle := (le_foldl_max ((framed excerpts).map Excerpt.margin) 0).2 _ (List.mem_map_of_mem he)
    refine ⟨e, he, ?_⟩
    unfold sharedMargin
    omega
  · obtain ⟨e, he, hmargin⟩ := List.mem_map.mp hmem
    exact ⟨e, he, hmargin⟩

/-- Excerpts drawn in one frame. -/
structure OneFrame (o : Options) (note : Option (List Char)) (excerpts : List Excerpt) : Prop where
  unframed : framed excerpts = [] →
    blockLines o note excerpts = excerpts.flatMap (partLines (sharedLayout o excerpts))
  /-- Right before the body of the first excerpt with text the frame is opened, and right after that
  of the last it is closed; else all excerpts show what they show alone, in their order. -/
  ends : framed excerpts ≠ [] →
    ∃ front first shown last rest, excerpts = front ++ shown ++ rest ∧
      framed front = [] ∧ framed rest = [] ∧
      shown.head? = some first ∧ first.text.isEmpty = false ∧
      shown.getLast? = some last ∧ last.text.isEmpty = false ∧
      blockLines o note excerpts =
        front.flatMap (partLines (sharedLayout o excerpts)) ++
          openingLine first :: shown.flatMap (partLines (sharedLayout o excerpts)) ++
          .closing note :: rest.flatMap (partLines (sharedLayout o excerpts))
  opened_once : (blockLines o note excerpts).countP BlockLine.isOpening =
    if framed excerpts = [] then 0 else 1
  closed_once : (blockLines o note excerpts).countP BlockLine.isClosing =
    if framed excerpts = [] then 0 else 1
  margin_le : ∀ e ∈ framed excerpts, e.margin ≤ sharedMargin excerpts
  margin_mem : framed excerpts ≠ [] → ∃ e ∈ framed excerpts, e.margin = sharedMargin excerpts
  /-- On every line but the place of an excerpt without text the frame has the column after it. -/
  aligned : ∀ b ∈ blockLines o note excerpts, (∃ locator, b = .place locator) ∨
    ∃ glyph, b.frameGlyph o.glyphs = some glyph ∧
      (b.print (sharedLayout o excerpts))[sharedMargin excerpts + 1]? = some glyph
  alone : ∀ e, excerpts = [e] → Excerpt.sharedDrawnLines excerpts note o = e.drawnLines note {} o
  empties : ∀ front rest e, excerpts = front ++ e :: rest → e.isEmpty = true →
    Excerpt.sharedDrawnLines excerpts note o = Excerpt.sharedDrawnLines (front ++ rest) note o

theorem sharedDrawnLines_single (o : Options) (note : Option (List Char)) (e : Excerpt) :
    Excerpt.sharedDrawnLines [e] note o = e.drawnLines note {} o := by
  unfold Excerpt.sharedDrawnLines Excerpt.drawnLines
  cases he : e.text.isEmpty with
  | true =>
    have hblock : blockLines o note [e] = partLines (sharedLayout o [e]) e := by
      rw [blockLines, sharedLines, he, if_pos rfl, excerptLines_of_not_text _ note he, sharedLines,
        List.append_nil]
    rw [hblock]
    dsimp only
    rw [excerptLines_of_not_text _ note he]
    unfold partLines
    rw [he]
    split
    · rw [List.map_nil, List.map_nil]
    · simp only [if_true, List.map_cons, List.map_nil, BlockLine.print]
  | false =>
    have hframed : framed [e] = [e] := framed_cons_of_text he []
    have hmargin : sharedMargin [e] = e.margin := by
      unfold sharedMargin
      rw [hframed]
      exact Nat.zero_max e.margin
    have hrole : Role.ofIndex ((0 : Nat) : Int) (([e].length : Nat) : Int) = .solo := rfl
    have hblock : blockLines o note [e] = excerptLines (sharedLayout o [e]) .solo note e := by
      rw [blockLines, sharedLines, he, if_neg (by decide), hframed, hrole, sharedLines,
        List.append_nil]
    rw [hblock, sharedLayout, hmargin]
    simp only [Option.getD_none]

theorem sharedDrawnLines_insert (o : Options) (note : Option (List Char))
    (front rest : List Excerpt) {e : Excerpt} (h : e.isEmpty = true) :
    Excerpt.sharedDrawnLines (front ++ e :: rest) note o =
      Excerpt.sharedDrawnLines (front ++ rest) note o := by
  have ht := text_of_isEmpty h
  have hframed : framed (front ++ e :: rest) = framed (front ++ rest) := by
    rw [framed_append, framed_cons_of_not_text ht, framed_append]
  have hlayout : sharedLayout o (front ++ e :: rest) = sharedLayout o (front ++ rest) := by
    rw [sharedLayout, sharedMargin, hframed]
    rfl
  have hblock : blockLines o note (front ++ e :: rest) = blockLines o note (front ++ rest) := by
    rw [blockLines, blockLines, hlayout, hframed, sharedLines_append, sharedLines_append,
      sharedLines, ht, if_pos rfl, excerptLines, h, if_pos rfl, List.nil_append]
  rw [Excerpt.sharedDrawnLines, Excerpt.sharedDrawnLines, hlayout, hblock]

theorem exists_frameGlyph (o : Options) (b : BlockLine) :
    (∃ locator, b = .place locator) ∨ ∃ glyph, b.frameGlyph o.glyphs = some glyph := by
  cases b with
  | opening locator =>
    cases locator with
    | none => exact .inr ⟨_, rfl⟩
    | some locator => rcases o.glyphs_cases with h | h <;> rw [h] <;> exact .inr ⟨_, rfl⟩
  | row => exact .inr ⟨_, rfl⟩
  | strip => exact .inr ⟨_, rfl⟩
  | closing note =>
    cases note with
    | none => exact .inr ⟨_, rfl⟩
    | some note => rcases o.glyphs_cases with h | h <;> rw [h] <;> exact .inr ⟨_, rfl⟩
  | place locator => exact .inl ⟨locator, rfl⟩

theorem length_number_of_mem_blockLines {o : Options} {note : Option (List Char)}
    {excerpts : List Excerpt} (hn : ∀ e ∈ excerpts, ∀ n, e.lineNumber = some n → 1 ≤ n)
    {number : Option Int} {cutBefore : Bool} {shown : List Char} {cutAfter : Bool}
    (hb : .row number cutBefore shown cutAfter ∈ blockLines o note excerpts) :
    (number.elim [] decimal).length ≤ sharedMargin excerpts := by
  obtain ⟨e, he, ht, hb⟩ := mem_body_of_mem_sharedLines hb trivial
  obtain ⟨i, hi, _, _, _, heq⟩ | ⟨_, heq⟩ := mem_body_cases hb
  · obtain ⟨rfl, -, -, -⟩ := BlockLine.row.inj heq
    exact Excerpt.length_number_le (margin_le_sharedMargin he ht) (hn e he) hi
  · cases heq

/-- Excerpts that share a frame are drawn as `OneFrame` says. -/
theorem oneFrame (o : Options) (note : Option (List Char)) (excerpts : List Excerpt)
    (hn : ∀ e ∈ excerpts, ∀ n, e.lineNumber = some n → 1 ≤ n) : OneFrame o note excerpts where
  unframed h := sharedLines_between _ note _ (.inl h)
  ends h := sharedLines_eq _ note h
  opened_once := by
    split
    · rename_i h
      rw [blockLines, sharedLines_between _ note _ (.inl h)]
      exact (countP_partLines _ excerpts).1
    · rename_i h
      obtain ⟨front, first, shown, last, rest, -, -, -, -, -, -, -, heq⟩ :=
        sharedLines_eq (sharedLayout o excerpts) note h
      rw [blockLines, heq]
      simp [List.countP_append, List.countP_cons, (countP_partLines _ _).1, openingLine,
        BlockLine.isOpening]
  closed_once := by
    split
    · rename_i h
      rw [blockLines, sharedLines_between _ note _ (.inl h)]
      exact (countP_partLines _ excerpts).2
    · rename_i h
      obtain ⟨front, first, shown, last, rest, -, -, -, -, -, -, -, heq⟩ :=
        sharedLines_eq (sharedLayout o excerpts) note h
      rw [blockLines, heq]
      simp [List.countP_append, List.countP_cons, (countP_partLines _ _).2, openingLine,
        BlockLine.isClosing]
  margin_le := by
    intro e he
    obtain ⟨hmem, ht⟩ := List.mem_filter.mp he
    exact margin_le_sharedMargin hmem (by simpa using ht)
  margin_mem := exists_sharedMargin
  aligned := by
    intro b hb
    rcases exists_frameGlyph o b with hplace | ⟨glyph, hg⟩
    · exact .inl hplace
    · refine .inr ⟨glyph, hg, BlockLine.getElem?_print rfl ?_ hg⟩
      rintro number cutBefore shown cutAfter rfl
      exact length_number_of_mem_blockLines hn hb
  alone := by
    rintro e rfl
    exact sharedDrawnLines_single o note e
  empties := by
    rintro front rest e rfl h
    exact sharedDrawnLines_insert o note front rest h

def mixedExcerpts : List Excerpt :=
  [{ source := some "a".toList, lineNumber := some 3 },
    { lineNumber := some 9, text := .owned "x\ny".toList }, {},
    { source := some "b".toList, lineNumber := some 2, text := .owned "z".toList },
    { source := some "c".toList }]

/-- The frame stands in the column after two digits, which only one of the numbers has. -/
theorem oneFrame_mixed :
    (∀ e ∈ mixedExcerpts, ∀ n, e.lineNumber = some n → 1 ≤ n) ∧
      OneFrame {} (some "end".toList) mixedExcerpts ∧
      Excerpt.sharedDrawnLines mixedExcerpts (some "end".toList) {} =
        ["[a:3]".toList, "   ╷".toList, "9  │ x".toList, "10 │ y".toList, "2  │ z".toList,
          "   ╰─[end]".toList, "[c]".toList] := by
  have hn : ∀ e ∈ mixedExcerpts, ∀ n, e.lineNumber = some n → 1 ≤ n := by decide
  exact ⟨hn, oneFrame {} (some "end".toList) mixedExcerpts hn, by cbv⟩

end SourceReport.Frame

import SourceReport.Proofs.Highlight.Order
import SourceReport.Proofs.Highlight.Ranges
import SourceReport.Proofs.Results

namespace SourceReport
open Text Highlight

namespace Highlight

theorem StablySorted.perm {given sorted : List Highlight} (h : StablySorted given sorted) :
    sorted.Perm given :=
  perm_of_filter_isAt_eq h.kept

theorem stablySorted_nil : StablySorted [] [] := ⟨.nil, fun _ _ => rfl⟩

theorem stablySorted_singleton (h : Highlight) : StablySorted [h] [h] :=
  ⟨List.pairwise_singleton _ h, fun _ _ => rfl⟩

/-- A highlight that is added comes after those that stand at its place. -/
theorem StablySorted.sort_append {given sorted : List Highlight} (h : StablySorted given sorted)
    (added : Highlight) : StablySorted (given ++ [added]) (sort (sorted ++ [added])) := by
  refine ⟨pairwise_sort _, ?_⟩
  intro line offset
  rw [filter_isAt_sort, List.filter_append, List.filter_append, h.kept]

end Highlight

namespace Excerpt

section
variable {lengths : List Nat} {s : Stretch}

theorem highlight?_eq_error (h : s.line < 0 ∨ (lengths.length : Int) ≤ s.line) :
    s.highlight? lengths = .error (.noSuchLine s.line lengths.length) := by
  unfold Stretch.highlight?
  split
  · rfl
  · have hle : lengths.length ≤ s.line.toNat := by omega
    rw [List.getElem?_eq_none hle]

theorem exists_highlight?_eq_ok_iff :
    (∃ k, s.highlight? lengths = .ok k) ↔ 0 ≤ s.line ∧ s.line < lengths.length := by
  constructor
  · rintro ⟨k, hk⟩
    by_contra h
    rw [highlight?_eq_error (by omega)] at hk
    cases hk
  · rintro ⟨hle, hlt⟩
    have hnat : s.line.toNat < lengths.length := by omega
    unfold Stretch.highlight?
    rw [if_neg (Int.not_lt.mpr hle), List.getElem?_eq_getElem hnat]
    exact ⟨_, rfl⟩

theorem highlight?_eq_error_iff {err : Error} :
    s.highlight? lengths = .error err ↔
      (s.line < 0 ∨ (lengths.length : Int) ≤ s.line) ∧
        err = .noSuchLine s.line lengths.length := by
  by_cases h : s.line < 0 ∨ (lengths.length : Int) ≤ s.line
  · rw [highlight?_eq_error h, Except.error.injEq, eq_comm]
    exact (and_iff_right h).symm
  · have hline : 0 ≤ s.line ∧ s.line < lengths.length := by omega
    obtain ⟨k, hk⟩ := exists_highlight?_eq_ok_iff.mpr hline
    rw [hk]
    simp [h]

end

def highlightsOf (text : Passage) (stretches : List Stretch) : Except Error (List Highlight) :=
  stretches.mapM (Stretch.highlight? ((splitLines text.content).map List.length))

theorem multiple_eq_map (index : Option Int) (text : Passage) (stretches : List Stretch) :
    multiple index text stretches = (highlightsOf text stretches).map fun highlights =>
      { lineNumber := index.map (· + 1), text, highlights := Highlight.sort highlights } := by
  change highlightsOf text stretches >>= _ = _
  cases highlightsOf text stretches <;> rfl

/-- The error names the first line that there is not, and how many there are. -/
theorem multiple_eq_error_iff {index : Option Int} {text : Passage} {stretches : List Stretch}
    {err : Error} {count : Nat} (hcount : (splitLines text.content).length = count) :
    multiple index text stretches = .error err ↔
      ∃ (before : List Stretch) (s : Stretch) (after : List Stretch),
        stretches = before ++ s :: after ∧ (∀ t ∈ before, 0 ≤ t.line ∧ t.line < count) ∧
        (s.line < 0 ∨ (count : Int) ≤ s.line) ∧ err = .noSuchLine s.line count := by
  have hmap : multiple index text stretches = .error err ↔
      highlightsOf text stretches = .error err := by
    rw [multiple_eq_map]
    cases highlightsOf text stretches <;> simp [Except.map]
  simp only [hmap, highlightsOf, mapM_eq_error_iff, exists_highlight?_eq_ok_iff,
    highlight?_eq_error_iff, List.length_map, hcount]

theorem exists_multiple_eq_error_iff (index : Option Int) (text : Passage)
    (stretches : List Stretch) :
    (∃ err, multiple index text stretches = .error err) ↔
      ∃ s ∈ stretches, s.line < 0 ∨ ((splitLines text.content).length : Int) ≤ s.line := by
  constructor
  · rintro ⟨err, h⟩
    obtain ⟨before, s, after, rfl, -, hs, -⟩ := (multiple_eq_error_iff rfl).mp h
    exact ⟨s, by simp, hs⟩
  · rintro ⟨s, hmem, hs⟩
    rw [multiple_eq_map]
    cases hgiven : highlightsOf text stretches with
    | error err => exact ⟨err, rfl⟩
    | ok highlights =>
      obtain ⟨k, hk⟩ := exists_mapM_eq_ok_iff.mp ⟨highlights, hgiven⟩ s hmem
      rw [highlight?_eq_error (by rwa [List.length_map])] at hk
      cases hk

/-- Whether an excerpt comes out with the highlights it had and those that are added, or the error
of these comes out. -/
inductive Keeps {ε : Type} (given : List Highlight) :
    Except ε (List Highlight) → Except ε Excerpt → Prop
  | refused (err : ε) : Keeps given (.error err) (.error err)
  | kept (added : List Highlight) (e : Excerpt) (h : StablySorted (given ++ added) e.highlights) :
    Keeps given (.ok added) (.ok e)

section
variable {ε : Type} {given : List Highlight} {added rest : Except ε (List Highlight)}
  {result : Except ε Excerpt}

theorem Keeps.bind {f : Excerpt → Except ε Excerpt} (h : Keeps given added result)
    (hf : ∀ hs e, StablySorted (given ++ hs) e.highlights → Keeps (given ++ hs) rest (f e)) :
    Keeps given (do return (← added) ++ (← rest)) (result >>= f) := by
  cases h with
  | refused err => exact .refused err
  | kept hs e h =>
    have hrest := hf hs e h
    change Keeps given (do return hs ++ (← rest)) (f e)
    generalize f e = result at hrest
    cases hrest with
    | refused err => exact .refused err
    | kept more e' h' =>
      rw [List.append_assoc] at h'
      exact .kept (hs ++ more) e' h'

theorem Keeps.exists_of_ok {e : Excerpt} (h : Keeps given added (.ok e)) :
    ∃ hs, added = .ok hs ∧ StablySorted (given ++ hs) e.highlights := by
  cases h with
  | kept hs e h => exact ⟨hs, rfl, h⟩

theorem Keeps.exists_of_added {hs : List Highlight} (h : Keeps given (.ok hs) result) :
    ∃ e, result = .ok e ∧ StablySorted (given ++ hs) e.highlights := by
  cases h with
  | kept hs e h => exact ⟨e, rfl, h⟩

end

inductive Making where
  | empty
  | plain (text : Passage)
  | fullLine (lineIndex : Int) (text : Passage)
  | onLine (lineIndex : Option Int) (text : Passage) (offset length : Int)
      (comment : Option (List Char))
  | lineRange (lineIndex : Option Int) (text : Passage) (start stop : Option Int)
      (comment : Option (List Char)) (inclusive : Bool)
  | multiple (lineIndex : Option Int) (text : Passage) (stretches : List Stretch)
  | atPosition (p : Position)
  | between (start stop : Position)

namespace Making

def make : Making → Except Error Excerpt
  | empty => .ok .empty
  | plain text => .ok (.plain text)
  | fullLine lineIndex text => .ok (.fullLine lineIndex text)
  | onLine lineIndex text offset length comment =>
    .ok (.onLine lineIndex text offset length comment)
  | lineRange lineIndex text start stop comment inclusive =>
    .ok (.lineRange lineIndex text start stop comment inclusive)
  | multiple lineIndex text stretches => Excerpt.multiple lineIndex text stretches
  | atPosition p => .ok (.atPosition p)
  | between start stop => .ok (.between start stop)

def given : Making → Except Error (List Highlight)
  | empty | plain _ | fullLine _ _ => .ok []
  | onLine _ _ offset length comment => .ok [⟨0, offset, length, comment⟩]
  | lineRange _ text start stop comment inclusive =>
    let (offset, length) := normalizeBounds start stop inclusive (some text.length)
    .ok (if start = none ∧ stop = none then [] else [⟨0, offset, length, comment⟩])
  | multiple _ text stretches => highlightsOf text stretches
  | atPosition _ => .ok [⟨0, 0, 3, none⟩]
  | between start stop =>
    .ok (if start.line = stop.line then [⟨0, 0, (Excerpt.between start stop).text.length, none⟩]
      else [])

theorem keeps_make (making : Making) : Keeps [] making.given making.make := by
  cases making with
  | empty | plain _ | fullLine _ _ => exact .kept _ _ stablySorted_nil
  | onLine lineIndex text offset length comment => exact .kept _ _ (stablySorted_singleton _)
  | lineRange lineIndex text start stop comment inclusive =>
    refine .kept _ _ ?_
    by_cases h : start = none ∧ stop = none
    · rw [if_pos h, h.1, h.2]
      cases lineIndex <;> exact stablySorted_nil
    · rw [if_neg h, lineRange_of_bound (not_and_or.mp h)]
      exact stablySorted_singleton _
  | multiple lineIndex text stretches =>
    change Keeps [] (highlightsOf text stretches) (Excerpt.multiple lineIndex text stretches)
    rw [multiple_eq_map]
    cases highlightsOf text stretches with
    | error err => exact .refused err
    | ok highlights => exact .kept _ _ (stablySorted_sort highlights)
  | atPosition p => exact .kept _ _ (stablySorted_singleton _)
  | between start stop =>
    refine .kept _ _ ?_
    by_cases h : start.line = stop.line
    · rw [if_pos h, Excerpt.between, if_pos h]
      exact stablySorted_singleton _
    · rw [if_neg h, Excerpt.between, if_neg h]
      exact stablySorted_nil

end Making

inductive Change where
  | source (name : List Char)
  | lineIndex (index : Int)
  | text (firstLineOffset : Int) (lines : Passage)
  | highlight (value : Shorthand)
  | owned

namespace Change

def apply (e : Excerpt) : Change → Except Highlight.Error Excerpt
  | source name => .ok (e.withSource name)
  | lineIndex index => .ok (e.withLineIndex index)
  | text firstLineOffset lines => .ok (e.withText firstLineOffset lines)
  | highlight value => (Highlight.ofShorthand value).map e.addHighlight
  | owned => .ok e.toOwned

def added : Change → Except Highlight.Error (List Highlight)
  | highlight value => (Highlight.ofShorthand value).map fun h => [h]
  | source _ | lineIndex _ | text _ _ | owned => .ok []

theorem keeps_apply {given : List Highlight} {e : Excerpt} (he : StablySorted given e.highlights)
    (c : Change) : Keeps given c.added (c.apply e) := by
  have hsame : StablySorted (given ++ []) e.highlights := by rwa [List.append_nil]
  cases c with
  | highlight value =>
    change Keeps given ((Highlight.ofShorthand value).map _) ((Highlight.ofShorthand value).map _)
    cases Highlight.ofShorthand value with
    | error err => exact .refused err
    | ok h => exact .kept [h] (e.addHighlight h) (he.sort_append h)
  | source name => exact .kept [] (e.withSource name) hsame
  | lineIndex index => exact .kept [] (e.withLineIndex index) hsame
  | text firstLineOffset lines => exact .kept [] (e.withText firstLineOffset lines) hsame
  | owned => exact .kept [] e.toOwned hsame

end Change

/-- Changes one after the other, up to the first that is refused. -/
def changeAll (e : Excerpt) : List Change → Except Highlight.Error Excerpt
  | [] => .ok e
  | c :: changes => do (← c.apply e).changeAll changes

def addedBy : List Change → Except Highlight.Error (List Highlight)
  | [] => .ok []
  | c :: changes => do return (← c.added) ++ (← addedBy changes)

theorem keeps_changeAll (changes : List Change) {given : List Highlight} {e : Excerpt}
    (he : StablySorted given e.highlights) : Keeps given (addedBy changes) (e.changeAll changes) := by
  induction changes generalizing given e with
  | nil =>
    refine .kept [] e ?_
    rwa [List.append_nil]
  | cons c changes ih =>
    -- the highlights so far, with those of this change, are given to the changes after it
    exact (c.keeps_apply he).bind fun hs next hnext => ih hnext

/-- An excerpt has all the highlights that it is made with and that are added to it, in order of
their places, and those at one place as they were given. It is made and changed unless one of them
is refused, as a stretch is that is on no line of its text. -/
theorem highlights_kept :
    (∀ (making : Making) (changes : List Change) (made e : Excerpt),
      making.make = .ok made → made.changeAll changes = .ok e →
      ∃ given added, making.given = .ok given ∧ addedBy changes = .ok added ∧
        StablySorted (given ++ added) e.highlights ∧ e.highlights.Perm (given ++ added)) ∧
    (∀ (making : Making) (changes : List Change) (given added : List Highlight),
      making.given = .ok given → addedBy changes = .ok added →
      ∃ made e, making.make = .ok made ∧ made.changeAll changes = .ok e) ∧
    ∀ (index : Option Int) (text : Passage) (stretches : List Stretch),
      (∃ err, multiple index text stretches = .error err) ↔
        ∃ s ∈ stretches, s.line < 0 ∨ ((splitLines text.content).length : Int) ≤ s.line := by
  refine ⟨?_, ?_, exists_multiple_eq_error_iff⟩
  · intro making changes made e hmade hchanged
    have hmake := making.keeps_make
    rw [hmade] at hmake
    obtain ⟨given, hgiven, hfirst⟩ := hmake.exists_of_ok
    have hchange := keeps_changeAll changes hfirst
    rw [hchanged] at hchange
    obtain ⟨added, hadded, hsorted⟩ := hchange.exists_of_ok
    exact ⟨given, added, hgiven, hadded, hsorted, hsorted.perm⟩
  · intro making changes given added hgiven hadded
    have hmake := making.keeps_make
    rw [hgiven] at hmake
    obtain ⟨made, hmade, hfirst⟩ := hmake.exists_of_added
    have hchange := keeps_changeAll changes hfirst
    rw [hadded] at hchange
    obtain ⟨e, hchanged, -⟩ := hchange.exists_of_added
    exact ⟨made, e, hmade, hchanged⟩

/-- Two highlights at one place, one of them added later, and a stretch of a line too many. -/
theorem highlights_kept_ties :
    let making : Making := .multiple none (.owned "ab\ncd".toList)
      [⟨1, some (.slice none (some 1) none), some "made".toList⟩, ⟨0, none, none⟩]
    let changes : List Change := [.source "ab.txt".toList,
      .highlight (.tuple [.number 1, .number 0, .number 2, .text "added".toList]), .owned]
    let given : List Highlight := [⟨1, 0, 1, some "made".toList⟩, ⟨0, 0, 2, none⟩]
    let added : List Highlight := [⟨1, 0, 2, some "added".toList⟩]
    (making.given = .ok given ∧ addedBy changes = .ok added ∧
      ∃ made e, making.make = .ok made ∧ made.changeAll changes = .ok e ∧
        StablySorted (given ++ added) e.highlights ∧ e.highlights.Perm (given ++ added)) ∧
    let third : Stretch := ⟨2, none, none⟩
    ∃ err, multiple none (.owned "ab\ncd".toList) [third] = .error err := by
  intro making changes given added
  obtain ⟨hkept, hmade, hrefused⟩ := highlights_kept
  have hgiven : making.given = .ok given := rfl
  have hadded : addedBy changes = .ok added := rfl
  obtain ⟨made, e, hmake, hchange⟩ := hmade making changes given added hgiven hadded
  obtain ⟨given', added', hgiven', hadded', hsorted, hperm⟩ :=
    hkept making changes made e hmake hchange
  obtain rfl : given = given' := Except.ok.inj (hgiven.symm.trans hgiven')
  obtain rfl : added = added' := Except.ok.inj (hadded.symm.trans hadded')
  refine ⟨⟨hgiven, hadded, made, e, hmake, hchange, hsorted, hperm⟩, ?_⟩
  intro third
  exact (hrefused none _ _).mpr ⟨third, List.mem_singleton.mpr rfl, .inr (by decide)⟩

end Excerpt

end SourceReport

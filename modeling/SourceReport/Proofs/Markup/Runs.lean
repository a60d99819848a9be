import SourceReport.Proofs.Frame.Marks
import SourceReport.Proofs.Frame.Rows
import SourceReport.Proofs.Markup.Masking
import SourceReport.Proofs.Markup.Reading

namespace SourceReport
open Text SourceReport.Frame

namespace Markup

instance (h : Highlight) (length i : Nat) : Decidable (h.Covers length i) :=
  inferInstanceAs (Decidable (_ ∧ _))

/-- The highlights that cover a character of a line. -/
def covering (highlights : List Highlight) (length i : Nat) : List Highlight :=
  highlights.filter fun h => decide (h.Covers length i)

theorem coverOf_eq_covering (highlights : List Highlight) (length i : Nat) :
    coverOf (highlights.map (clip length)) i = covering highlights length i := by
  rw [coverOf_map_clip, covering]
  apply List.filter_congr
  intro h _
  rw [covers, ← Bool.decide_and]
  rfl

theorem covering_eq_nil {highlights : List Highlight} {length i : Nat} :
    covering highlights length i = [] ↔ ¬∃ h ∈ highlights, h.Covers length i := by
  simp [covering]

/-- The tag of the run that some highlights share. -/
def runTag (cover : List Highlight) : Token :=
  let comments := (cover.filterMap (·.comment)).filter (· ≠ [])
  .opening "span".toList [("class".toList, "highlight".toList),
    ("title".toList, escape (List.intercalate "; ".toList comments))]

def runTags (cover : List Highlight) : List Token := if cover = [] then [] else [runTag cover]

theorem openingToken_run (cover : List Highlight) :
    openingToken .span [(.class_, "highlight".toList), (.title, coverTitle cover)] =
      runTag cover := by
  have hcomments : (cover.filterMap (·.comment)).filter (fun s => !s.isEmpty) =
      (cover.filterMap (·.comment)).filter (· ≠ []) := by
    apply List.filter_congr
    intro s _
    cases s <;> rfl
  rw [runTag, ← hcomments]
  rfl

section
variable (left : List Token)

theorem shownIn_wrapRun (cover : List Highlight) (nodes : List Node) :
    shownIn left (wrapRun cover nodes) = shownIn (runTags cover ++ left) nodes := by
  cases cover with
  | nil => rfl
  | cons h cover =>
    rw [wrapRun, if_neg (by simp), shownIn_element, openingToken_run, shownIn_nil, List.append_nil]
    rfl

theorem shownIn_pointsAt (clipped : List Clipped) (index : Int) :
    shownIn left (pointsAt clipped index) = [] := by
  unfold pointsAt
  induction clipped.filter fun c => c.first == c.last && c.last == index with
  | nil => rfl
  | cons c rest ih =>
    rw [List.map_cons, pointNode, shownIn_element, ih]
    rfl

/-- Characters are shown one after the other, each in the run of the highlights that cover it. -/
theorem shownIn_runNodes (clipped : List Clipped) (endsLine : Bool) (cover : List Highlight)
    (index : Nat) (s : List Char) :
    shownIn (runTags cover ++ left) (runNodes clipped endsLine cover index s).1 ++
        shownIn left (runNodes clipped endsLine cover index s).2 =
      s.mapIdx fun j c => (runTags (coverOf clipped (index + j : Nat)) ++ left, c) := by
  induction s generalizing cover index with
  | nil =>
    have hpoints : ∀ left, shownIn left (if endsLine then pointsAt clipped index else []) = [] := by
      intro left
      cases endsLine
      · rfl
      · exact shownIn_pointsAt left clipped index
    rw [runNodes]
    split
    · rw [hpoints]
      rfl
    · rw [hpoints, shownIn_wrapRun]
      rfl
  | cons c s ih =>
    have hrest := ih (coverOf clipped index) (index + 1)
    have hnext : ∀ j, index + 1 + j = index + (j + 1) := by
      intro j
      omega
    simp only [hnext] at hrest
    rw [List.mapIdx_cons, ← hrest, runNodes]
    dsimp only [Nat.add_zero]
    split
    · rename_i heq
      rw [shownIn_append, shownIn_pointsAt, shownIn_text, heq]
      rfl
    · rw [shownIn_pointsAt, shownIn_append, shownIn_wrapRun, shownIn_text]
      rfl

def rowText (line : List Char) (row : Row) : List Char := (line.take row.stop).drop row.start

theorem shownIn_rowNodes (line : List Char) (row : Row) (highlights : List Highlight) :
    shownIn left (rowNodes line row highlights) = (rowText line row).mapIdx fun j c =>
      (runTags (covering highlights line.length (row.start + j)) ++ left, c) := by
  have hruns := shownIn_runNodes left (highlights.map (clip line.length))
    (row.stop == line.length) [] row.start (rowText line row)
  simp only [coverOf_eq_covering] at hruns
  rw [← hruns, rowNodes, shownIn_append]
  rfl

end

theorem characters_rowNodes (line : List Char) (row : Row) (highlights : List Highlight) :
    characters (shownAll (rowNodes line row highlights)) = rowText line row := by
  have hshown := shownIn_rowNodes [] line row highlights
  rw [← map_snd_enclosed [], ← shownIn, hshown]
  apply List.ext_getElem?
  intro j
  rw [List.getElem?_map, List.getElem?_mapIdx, Option.map_map]
  exact Option.map_id'

theorem enclosed_rowNodes {chars : List Char} {row : Row} (highlights : List Highlight) {i : Nat}
    (hi : row.start ≤ i) (hlt : i < row.stop) (hstop : row.stop ≤ chars.length) :
    ∃ c, chars[i]? = some c ∧
      (enclosed [] (shownAll (rowNodes chars row highlights)))[i - row.start]? =
        some (runTags (covering highlights chars.length i), c) := by
  have hin : i < chars.length := Nat.lt_of_lt_of_le hlt hstop
  have hplace : row.start + (i - row.start) = i := Nat.add_sub_cancel' hi
  have hget : (rowText chars row)[i - row.start]? = some (chars.get ⟨i, hin⟩) := by
    rw [rowText, List.getElem?_drop, hplace, List.getElem?_take_of_lt hlt]
    exact List.getElem?_eq_getElem hin
  have hshown := shownIn_rowNodes [] chars row highlights
  rw [shownIn] at hshown
  refine ⟨chars.get ⟨i, hin⟩, List.getElem?_eq_getElem hin, ?_⟩
  rw [hshown, List.getElem?_mapIdx, hget, Option.map_some, hplace, List.append_nil]

theorem length_rowText {line : List Char} {row : Row} (hstop : row.stop ≤ line.length) :
    (rowText line row).length = row.stop - row.start := by
  rw [rowText, List.length_drop, List.length_take]
  omega

section
variable (name : List Char) {attributes : List (List Char × List Char)}

/-- Runs and points have titles, so they are no elements with a single attribute. -/
theorem openingToken_ne (hone : attributes.length = 1) {tag : Tag}
    {a b : Attribute × List Char} : openingToken tag [a, b] ≠ .opening name attributes := by
  intro h
  have hlength := congrArg List.length (Token.opening.inj h).2
  rw [hone] at hlength
  cases hlength

theorem contentsIn_wrapRun (hone : attributes.length = 1) (cover : List Highlight)
    (nodes : List Node) :
    contentsIn name attributes (wrapRun cover nodes) = contentsIn name attributes nodes := by
  unfold wrapRun
  split
  · rfl
  · rw [contentsIn_element, if_neg (openingToken_ne name hone), contentsIn_nil, List.append_nil,
      List.nil_append]

theorem contentsIn_pointsAt (hone : attributes.length = 1) (clipped : List Clipped)
    (index : Int) : contentsIn name attributes (pointsAt clipped index) = [] := by
  unfold pointsAt
  induction clipped.filter fun c => c.first == c.last && c.last == index with
  | nil => rfl
  | cons c rest ih =>
    rw [List.map_cons, pointNode, contentsIn_element, if_neg (openingToken_ne name hone), ih]
    rfl

theorem contentsIn_runNodes (hone : attributes.length = 1) (clipped : List Clipped)
    (endsLine : Bool) (cover : List Highlight) (index : Nat) (s : List Char) :
    contentsIn name attributes (runNodes clipped endsLine cover index s).1 = [] ∧
      contentsIn name attributes (runNodes clipped endsLine cover index s).2 = [] := by
  induction s generalizing cover index with
  | nil =>
    have hpoints :
        contentsIn name attributes (if endsLine then pointsAt clipped index else []) = [] := by
      cases endsLine
      · rfl
      · exact contentsIn_pointsAt name hone clipped index
    rw [runNodes]
    split
    · exact ⟨hpoints, rfl⟩
    · exact ⟨hpoints, contentsIn_wrapRun name hone _ _⟩
  | cons c s ih =>
    obtain ⟨hinside, hafter⟩ := ih (coverOf clipped index) (index + 1)
    have hpoints := contentsIn_pointsAt name hone clipped index
    rw [runNodes]
    dsimp only
    split
    · refine ⟨?_, hafter⟩
      rw [contentsIn_append, hpoints, contentsIn_text, hinside]
      rfl
    · refine ⟨hpoints, ?_⟩
      rw [contentsIn_append, contentsIn_wrapRun name hone, contentsIn_text, hinside, hafter]
      rfl

theorem contentsIn_rowNodes (hone : attributes.length = 1) (line : List Char) (row : Row)
    (highlights : List Highlight) :
    contentsIn name attributes (rowNodes line row highlights) = [] := by
  obtain ⟨hinside, hafter⟩ := contentsIn_runNodes name hone
    (highlights.map (clip line.length)) (row.stop == line.length) [] row.start
    ((line.take row.stop).drop row.start)
  rw [rowNodes, contentsIn_append, hinside, hafter]
  rfl

end

/-- The characters of a row with an ellipsis on each side where the line is cut. -/
def rowShown (cutStart : Bool) (line : List Char) (row : Row) : List Char :=
  (if decide (0 < row.start) || cutStart then ['…'] else []) ++ rowText line row ++
    if decide (row.stop < line.length) then ['…'] else []

/-- What the elements that hold lines show. -/
def lineContents (tokens : List Token) : List (List Char) :=
  contents "span".toList [("class".toList, "line".toList)] tokens

theorem lineContents_shownAll (ns : List Node) : lineContents (shownAll ns) =
    contentsIn "span".toList [("class".toList, "line".toList)] ns := rfl

theorem characters_ellipsisNode (isCut : Bool) :
    characters (shownAll (ellipsisNode isCut)) = if isCut then ['…'] else [] := by
  cases isCut <;> rfl

theorem contentsIn_numberedRow (name : List Char) {attributes : List (List Char × List Char)}
    (hone : attributes.length = 1) (highlights : List Highlight) (number : Option Int)
    (cutStart : Bool) (line : List Char) (row : Row) :
    contentsIn name attributes (numberedRow highlights number cutStart line row) =
      (if openingToken .span [(.class_, "line-number".toList)] = .opening name attributes then
        [number.elim [] decimal] else []) ++
      if openingToken .span [(.class_, "line".toList)] = .opening name attributes then
        [rowShown cutStart line row] else [] := by
  have hellipsis : ∀ isCut, contentsIn name attributes (ellipsisNode isCut) = [] := by
    intro isCut
    cases isCut <;> rfl
  have hnumber : characters (shownAll [.text (number.elim [] decimal)]) =
      number.elim [] decimal := by
    rw [shownAll, shownAll, List.append_nil, Node.shown, characters_map_character]
  rw [numberedRow, Node.classed, Node.classed]
  simp only [contentsIn_element, contentsIn_text, contentsIn_nil, contentsIn_append, hellipsis,
    contentsIn_rowNodes name hone, characters_shownAll_append, characters_ellipsisNode,
    characters_rowNodes, hnumber, List.nil_append, List.append_nil]
  rfl

def rowsOf (options : Options) (e : Excerpt) (i : Nat) (line : List Char) : List Row :=
  lineRows line.length (highlightSpan (e.highlights.filter fun h => h.line == (i : Int)) line.length)
    options.htmlColumns

/-- The elements of the rows of an excerpt, row after row. -/
theorem contentsIn_bodyNodes {name : List Char} {attributes : List (List Char × List Char)}
    {shows : Option Int → Bool → List Char → Row → List (List Char)}
    (hrow : ∀ highlights number cutStart line row,
      contentsIn name attributes (numberedRow highlights number cutStart line row) =
        shows number cutStart line row) (options : Options) (e : Excerpt) :
    contentsIn name attributes (bodyNodes options.htmlColumns e) =
      (e.logicalLines.mapIdx fun i line => (rowsOf options e i line).flatMap
        (shows (e.lineNumber.map (· + (i : Int))) (i == 0 && decide (0 < e.firstLineOffset))
          line)).flatten := by
  rw [bodyNodes, contentsIn_mapIdx]
  congr 2
  funext i line
  rw [lineNodes, contentsIn_flatMap, ← rowsOf]
  simp only [hrow]

theorem lineContents_bodyNodes (options : Options) (e : Excerpt) :
    lineContents (shownAll (bodyNodes options.htmlColumns e)) =
      (e.logicalLines.mapIdx fun i line => (rowsOf options e i line).map
        (rowShown (i == 0 && decide (0 < e.firstLineOffset)) line)).flatten := by
  have hnumber : openingToken .span [(.class_, "line-number".toList)] ≠
      .opening "span".toList [("class".toList, "line".toList)] := by decide
  have hline : openingToken .span [(.class_, "line".toList)] =
      .opening "span".toList [("class".toList, "line".toList)] := by decide
  have hrow (highlights : List Highlight) (number : Option Int) (cutStart : Bool)
      (line : List Char) (row : Row) :
      contentsIn "span".toList [("class".toList, "line".toList)]
        (numberedRow highlights number cutStart line row) = [rowShown cutStart line row] := by
    rw [contentsIn_numberedRow _ rfl, if_neg hnumber, if_pos hline, List.nil_append]
  rw [lineContents_shownAll, contentsIn_bodyNodes hrow]
  simp only [List.map_eq_flatMap]

theorem contentsIn_excerptNodes {name : List Char} {attributes : List (List Char × List Char)}
    (hdiv : openingToken .div [(.class_, "context".toList)] ≠ .opening name attributes)
    (hsource : openingToken .span [(.class_, "source".toList)] ≠ .opening name attributes)
    (options : Options) (e : Excerpt) :
    contentsIn name attributes (excerptNodes options e) =
      contentsIn name attributes (bodyNodes options.htmlColumns e) := by
  rw [excerptNodes]
  by_cases hempty : e.isEmpty
  · have hparts := hempty
    rw [Excerpt.isEmpty, Bool.and_eq_true, Bool.and_eq_true] at hparts
    have hlines : e.logicalLines = [] := Excerpt.logicalLines_eq_nil.mpr hparts.1.1
    rw [if_pos hempty, bodyNodes, hlines]
    rfl
  · rw [if_neg hempty]
    dsimp only
    rw [Node.classed, contentsIn_element, if_neg hdiv, contentsIn_append]
    split
    · rw [Node.classed, contentsIn_element, if_neg hsource]
      simp
    · simp

theorem lineContents_excerptNodes (options : Options) (e : Excerpt) :
    lineContents (shownAll (excerptNodes options e)) =
      (e.logicalLines.mapIdx fun i line => (rowsOf options e i line).map
        (rowShown (i == 0 && decide (0 < e.firstLineOffset)) line)).flatten := by
  have hnodes : contentsIn "span".toList [("class".toList, "line".toList)]
      (excerptNodes options e) = _ :=
    contentsIn_excerptNodes (by decide) (by decide) options e
  rw [← lineContents_bodyNodes, lineContents_shownAll, lineContents_shownAll, hnodes]

/-- The rows of a line show it from the start of the first row on, in pieces that keep to the
columns there are. -/
theorem rowsOf_cover (options : Options) (e : Excerpt) (i : Nat) (line : List Char) :
    ∃ first rest, rowsOf options e i line = first :: rest ∧
      (rowsOf options e i line).flatMap (rowText line) = line.drop first.start ∧
      ∀ row ∈ rowsOf options e i line, (rowText line row).length ≤ options.htmlColumns := by
  have hcolumns : 0 < options.htmlColumns := by
    have := options.le_htmlColumns
    omega
  have htiles : Tiles line.length options.htmlColumns _ (rowsOf options e i line) :=
    tiles_lineRows hcolumns _
  obtain ⟨first, rest, hrows, hfirst⟩ := htiles.exists_first
  refine ⟨first, rest, hrows, ?_, ?_⟩
  · rw [hfirst]
    exact htiles.flatMap_slice
  · intro row hrow
    obtain ⟨-, -, hstop, hbudget⟩ := htiles.bounds (lineStart_le ..) row hrow
    rw [length_rowText hstop]
    omega

/-- The markup of a row shows the characters of the row. Around a character stands one run if a
highlight covers it, titled by the comments of those that do, and nothing else. The rows of an
excerpt show its lines, each from the start of its first row on. -/
theorem rows_show_lines :
    (∀ (chars : List Char) (row : Row) (highlights : List Highlight), row.stop ≤ chars.length →
      ∃ tokens, read (printAll (rowNodes chars row highlights)) = some tokens ∧
        characters tokens = rowText chars row ∧
        ∀ i, row.start ≤ i → i < row.stop → ∃ c, chars[i]? = some c ∧
          (enclosed [] tokens)[i - row.start]? =
            some (if ∃ h ∈ highlights, h.Covers chars.length i then
              [runTag (covering highlights chars.length i)] else [], c)) ∧
    ∀ (e : Excerpt) (options : Options), ∃ tokens, read (e.toHtml options) = some tokens ∧
      lineContents tokens = (e.logicalLines.mapIdx fun i line => (rowsOf options e i line).map
        (rowShown (i == 0 && decide (0 < e.firstLineOffset)) line)).flatten ∧
      ∀ (i : Nat) (line : List Char), e.logicalLines[i]? = some line →
        ∃ first rest, rowsOf options e i line = first :: rest ∧
          (rowsOf options e i line).flatMap (rowText line) = line.drop first.start ∧
          ∀ row ∈ rowsOf options e i line, (rowText line row).length ≤ options.htmlColumns := by
  refine ⟨?_, ?_⟩
  · intro chars row highlights hstop
    refine ⟨_, read_printAll _, characters_rowNodes chars row highlights, ?_⟩
    intro i hi hlt
    obtain ⟨c, hc, hshown⟩ := enclosed_rowNodes highlights hi hlt hstop
    refine ⟨c, hc, ?_⟩
    rw [hshown]
    simp only [runTags, covering_eq_nil, ite_not]
  · intro e options
    exact ⟨_, read_printAll _, lineContents_excerptNodes options e,
      fun i line _ => rowsOf_cover options e i line⟩

/-- Two runs that overlap, a point between them and a highlight past the end of the line. -/
theorem rows_show_lines_overlap :
    let outer : Highlight := ⟨0, 0, 4, some "tag".toList⟩
    let inner : Highlight := ⟨0, 2, 2, some "name".toList⟩
    let highlights := [outer, ⟨0, 2, 0, some "here".toList⟩, inner, ⟨0, 9, 3, none⟩]
    5 ≤ "a<b>cd".toList.length ∧
      ∃ tokens, read (printAll (rowNodes "a<b>cd".toList ⟨1, 5⟩ highlights)) = some tokens ∧
        characters tokens = "<b>c".toList ∧
        (enclosed [] tokens)[0]? = some ([runTag [outer]], '<') ∧
        (enclosed [] tokens)[1]? = some ([runTag [outer, inner]], 'b') ∧
        (enclosed [] tokens)[3]? = some ([], 'c') := by
  intro outer inner highlights
  obtain ⟨tokens, hread, hcharacters, henclosed⟩ :=
    rows_show_lines.1 "a<b>cd".toList ⟨1, 5⟩ highlights (by decide)
  obtain ⟨c, hc, htag⟩ := henclosed 1 (by decide) (by decide)
  obtain ⟨d, hd, hname⟩ := henclosed 2 (by decide) (by decide)
  obtain ⟨e, he, hfree⟩ := henclosed 4 (by decide) (by decide)
  obtain rfl := Option.some.inj hc
  obtain rfl := Option.some.inj hd
  obtain rfl := Option.some.inj he
  have hcovered : ∃ h ∈ highlights, h.Covers "a<b>cd".toList.length 1 := by decide
  have hboth : ∃ h ∈ highlights, h.Covers "a<b>cd".toList.length 2 := by decide
  have hnone : ¬∃ h ∈ highlights, h.Covers "a<b>cd".toList.length 4 := by decide
  rw [if_pos hcovered] at htag
  rw [if_pos hboth] at hname
  rw [if_neg hnone] at hfree
  exact ⟨by decide, tokens, hread, hcharacters, htag, hname, hfree⟩

end Markup

end SourceReport

import SourceReport.Proofs.Markup.Agreement
import Mathlib.Data.List.SplitBy
import Mathlib.Data.List.TakeWhile

namespace SourceReport.Markup
open Text SourceReport.Frame

def Token.opensRun : Token → Bool
  | .opening name ((key, value) :: _) =>
    name == "span".toList && key == "class".toList && value == "highlight".toList
  | _ => false

/-- The elements of runs, as their tags, each with the characters up to where it is closed. -/
def runElements : List Token → List (Token × List Char)
  | [] => []
  | t :: tokens => (if t.opensRun then [(t, content 0 tokens)] else []) ++ runElements tokens

theorem runElements_characters (s : List Char) (rest : List Token) :
    runElements (s.map .character ++ rest) = runElements rest := by
  induction s with
  | nil => rfl
  | cons c s ih => exact ih

mutual

theorem runElements_shown_append : ∀ (n : Node) (rest : List Token),
    runElements (n.shown ++ rest) = runElements n.shown ++ runElements rest
  | .text s, rest => by
    have halone := runElements_characters s []
    rw [List.append_nil] at halone
    rw [Node.shown, runElements_characters, halone]
    rfl
  | .element tag attributes children, rest => by
    have hinside : ∀ more : List Token,
        runElements (shownAll children ++ .closing tag.name :: more) =
          runElements (shownAll children) ++ runElements more :=
      fun more => runElements_shownAll_append children (.closing tag.name :: more)
    have hcontent : ∀ more : List Token,
        content 0 (shownAll children ++ .closing tag.name :: more) =
          characters (shownAll children) := by
      intro more
      rw [content_shownAll, content, List.append_nil]
    simp only [Node.shown, List.append_assoc, List.cons_append, List.nil_append, runElements,
      hinside, hcontent, List.append_nil]

theorem runElements_shownAll_append : ∀ (ns : List Node) (rest : List Token),
    runElements (shownAll ns ++ rest) = runElements (shownAll ns) ++ runElements rest
  | [], _ => rfl
  | n :: ns, rest => by
    rw [shownAll, List.append_assoc, runElements_shown_append n, runElements_shownAll_append ns,
      runElements_shown_append n, List.append_assoc]

end

def runElementsIn (ns : List Node) : List (Token × List Char) := runElements (shownAll ns)

theorem runElementsIn_append (ns ms : List Node) :
    runElementsIn (ns ++ ms) = runElementsIn ns ++ runElementsIn ms := by
  rw [runElementsIn, shownAll_append, runElements_shownAll_append]
  rfl

theorem runElementsIn_text (c : Char) (ns : List Node) :
    runElementsIn (.text [c] :: ns) = runElementsIn ns := rfl

theorem runElementsIn_element (tag : Tag) (attributes : List (Attribute × List Char))
    (children ns : List Node) :
    runElementsIn (.element tag attributes children :: ns) =
      (if (openingToken tag attributes).opensRun then
        [(openingToken tag attributes, characters (shownAll children))] else []) ++
        (runElementsIn children ++ runElementsIn ns) := by
  have hinside : runElements (shownAll children ++ [.closing tag.name]) =
      runElements (shownAll children) := by
    rw [runElements_shownAll_append]
    exact List.append_nil _
  have hcontent : content 0 (shownAll children ++ [.closing tag.name]) =
      characters (shownAll children) := by
    rw [content_shownAll, content, List.append_nil]
  rw [runElementsIn, shownAll, runElements_shown_append]
  simp only [Node.shown, List.cons_append, runElements, hinside, hcontent, List.append_assoc,
    runElementsIn]

theorem runElementsIn_pointsAt (clipped : List Clipped) (index : Int) :
    runElementsIn (pointsAt clipped index) = [] := by
  rw [pointsAt]
  induction clipped.filter fun c => c.first == c.last && c.last == index with
  | nil => rfl
  | cons c rest ih =>
    rw [List.map_cons, pointNode, runElementsIn_element, ih]
    rfl

theorem runElementsIn_wrapRun (cover : List Highlight) (nodes : List Node) :
    runElementsIn (wrapRun cover nodes) =
      (if cover = [] then [] else [(runTag cover, characters (shownAll nodes))]) ++
        runElementsIn nodes := by
  cases cover with
  | nil => rfl
  | cons h cover =>
    have hruns : (runTag (h :: cover)).opensRun = true := rfl
    rw [wrapRun, if_neg (by simp), runElementsIn_element, openingToken_run, if_pos hruns,
      if_neg (List.cons_ne_nil h cover)]
    exact congrArg _ (List.append_nil _)

theorem runElementsIn_wrapRun_text (cover : List Highlight) (c : Char) (nodes : List Node) :
    runElementsIn (wrapRun cover (.text [c] :: nodes)) =
      (if cover = [] then [] else [(runTag cover, c :: characters (shownAll nodes))]) ++
        runElementsIn nodes := by
  rw [runElementsIn_wrapRun, runElementsIn_text]
  rfl

def runOf? : List (List Highlight × Char) → Option (List Highlight × List Char)
  | [] => none
  | (cover, c) :: rest => if cover = [] then none else some (cover, c :: rest.map Prod.snd)

/-- The longest stretches of characters under the same highlights, without those under none. -/
def maximalRuns (covered : List (List Highlight × Char)) : List (List Highlight × List Char) :=
  (covered.splitBy fun a b => a.1 == b.1).filterMap runOf?

theorem ne_nil_of_mem_maximalRuns {covered : List (List Highlight × Char)}
    {run : List Highlight × List Char} (h : run ∈ maximalRuns covered) : run.2 ≠ [] := by
  obtain ⟨stretch, -, hrun⟩ := List.mem_filterMap.mp h
  cases stretch with
  | nil => cases hrun
  | cons p rest =>
    obtain ⟨-, hrun⟩ := Option.ite_none_left_eq_some.mp hrun
    rw [← Option.some.inj hrun]
    exact List.cons_ne_nil _ _

def leading (cover : List Highlight) (covered : List (List Highlight × Char)) :
    List (List Highlight × Char) := covered.takeWhile fun p => p.1 == cover

def following (cover : List Highlight) (covered : List (List Highlight × Char)) :
    List (List Highlight × Char) := covered.dropWhile fun p => p.1 == cover

section
variable (cover now : List Highlight) (c : Char) (covered : List (List Highlight × Char))

theorem leading_cons : leading cover ((now, c) :: covered) =
    if now = cover then (now, c) :: leading cover covered else [] := by
  simp [leading, List.takeWhile_cons]

theorem following_cons : following cover ((now, c) :: covered) =
    if now = cover then following cover covered else (now, c) :: covered := by
  simp [following, List.dropWhile_cons]

theorem eq_of_mem_leading {p : List Highlight × Char} (h : p ∈ leading cover covered) :
    p.1 = cover := by
  have hcover : (p.1 == cover) = true :=
    List.mem_takeWhile_imp (p := fun p : List Highlight × Char => p.1 == cover) h
  exact beq_iff_eq.mp hcover

theorem ne_of_head?_following {p : List Highlight × Char}
    (h : (following cover covered).head? = some p) : p.1 ≠ cover := by
  have hhead := List.head?_dropWhile_not (fun p => p.1 == cover) covered
  rw [← following, h] at hhead
  simpa using hhead

/-- A stretch ends in front of the first character under other highlights. -/
theorem maximalRuns_cons : maximalRuns ((cover, c) :: covered) =
    (if cover = [] then [] else [(cover, c :: (leading cover covered).map Prod.snd)]) ++
      maximalRuns (following cover covered) := by
  let stretch := (cover, c) :: leading cover covered
  have hsplit : (cover, c) :: covered = stretch ++ following cover covered := by
    rw [List.cons_append, leading, following, List.takeWhile_append_dropWhile]
  have hsame : ∀ p ∈ stretch, p.1 = cover := by
    intro p hp
    rcases List.mem_cons.mp hp with rfl | hp
    · rfl
    · exact eq_of_mem_leading cover covered hp
  have hchain : stretch.IsChain fun a b => (a.1 == b.1) = true := by
    apply List.Pairwise.isChain
    rw [List.pairwise_iff_forall_sublist]
    intro a b hab
    have ha : a.1 = cover := hsame a (hab.subset List.mem_cons_self)
    have hb : b.1 = cover := hsame b (hab.subset (List.mem_cons_of_mem a List.mem_cons_self))
    rw [ha, hb, beq_self_eq_true]
  have hends : ∀ a ∈ stretch.getLast?, ∀ b ∈ (following cover covered).head?,
      (a.1 == b.1) = false := by
    intro a ha b hb
    rw [hsame a (List.mem_of_getLast? ha), beq_eq_false_iff_ne]
    exact (ne_of_head?_following cover covered hb).symm
  rw [maximalRuns, hsplit, List.splitBy_append hends,
    List.splitBy_of_isChain (List.cons_ne_nil _ _) hchain, List.filterMap_append]
  congr 1
  by_cases hnil : cover = [] <;> simp [runOf?, hnil]

end

def lastCover (cover : List Highlight) (covered : List (List Highlight × Char)) :
    List Highlight := (covered.getLast?.map Prod.fst).getD cover

theorem lastCover_cons (cover now : List Highlight) (c : Char)
    (covered : List (List Highlight × Char)) :
    lastCover cover ((now, c) :: covered) = lastCover now covered := by
  cases covered with
  | nil => rfl
  | cons p rest => simp [lastCover, List.getLast?_cons]

/-- The element that is opened behind the last character, for a run that goes on elsewhere. -/
def cutElement (last next : List Highlight) : List (Token × List Char) :=
  if next = [] ∨ next = last then [] else [(runTag next, [])]

theorem cutElement_nil (last : List Highlight) : cutElement last [] = [] := if_pos (.inl rfl)

/-- What goes into the open run are the characters up to the first one under other highlights. From
there on, each run has its element. -/
theorem runElementsIn_runNodes (clipped : List Clipped) (endsLine : Bool) (cover : List Highlight)
    (index : Nat) (s : List Char) :
    let covered := s.mapIdx fun j c => (coverOf clipped (index + j : Nat), c)
    characters (shownAll (runNodes clipped endsLine cover index s).1) =
        (leading cover covered).map Prod.snd ∧
      runElementsIn (runNodes clipped endsLine cover index s).1 = [] ∧
      runElementsIn (runNodes clipped endsLine cover index s).2 =
        (maximalRuns (following cover covered)).map (fun run => (runTag run.1, run.2)) ++
          cutElement (lastCover cover covered) (coverOf clipped (index + s.length : Nat)) := by
  intro covered
  -- on the characters, under any cover: the rest is entered under that of the first character
  induction s generalizing cover index with
  | nil =>
    have hpoints : runElementsIn (if endsLine then pointsAt clipped index else []) = [] ∧
        characters (shownAll (if endsLine then pointsAt clipped index else [])) = [] := by
      cases endsLine
      · exact ⟨rfl, rfl⟩
      · exact ⟨runElementsIn_pointsAt clipped index, characters_pointsAt clipped index⟩
    have hcovered : covered = [] := rfl
    rw [hcovered, runNodes]
    dsimp only [List.length_nil, Nat.add_zero]
    split
    · rename_i heq
      have hnone : cutElement (lastCover cover []) (coverOf clipped index) = [] :=
        if_pos (Or.inr heq)
      rw [hnone]
      exact ⟨hpoints.2, hpoints.1, rfl⟩
    · rename_i hne
      have hcut : cutElement (lastCover cover []) (coverOf clipped index) =
          if coverOf clipped index = [] then [] else [(runTag (coverOf clipped index), [])] := by
        have hlast : coverOf clipped index ≠ lastCover cover [] := hne
        simp only [cutElement, hlast, or_false]
      rw [hcut, runElementsIn_wrapRun]
      exact ⟨hpoints.2, hpoints.1, List.append_nil _⟩
  | cons c s ih =>
    obtain ⟨hinside, hfree, hafter⟩ := ih (coverOf clipped index) (index + 1)
    have hnext : ∀ j, index + 1 + j = index + (j + 1) := by
      intro j
      omega
    have hcovered : covered = (coverOf clipped index, c) ::
        s.mapIdx fun j c => (coverOf clipped (index + 1 + j : Nat), c) := by
      simp only [hnext]
      exact List.mapIdx_cons
    have hpoints := runElementsIn_pointsAt clipped index
    rw [hcovered, List.length_cons, ← hnext s.length, lastCover_cons, leading_cons, following_cons,
      runNodes]
    dsimp only
    split
    · rename_i heq
      rw [← heq]
      refine ⟨?_, ?_, hafter⟩
      · rw [characters_shownAll_append, characters_pointsAt, List.map_cons, ← hinside]
        rfl
      · rw [runElementsIn_append, hpoints, runElementsIn_text, hfree]
        rfl
    · refine ⟨characters_pointsAt clipped index, hpoints, ?_⟩
      rw [runElementsIn_append, runElementsIn_wrapRun_text, hfree, hafter, hinside,
        maximalRuns_cons, List.map_append, List.append_nil, List.append_assoc]
      congr 1
      split <;> rfl

theorem maximalRuns_following_nil (covered : List (List Highlight × Char)) :
    maximalRuns (following [] covered) = maximalRuns covered := by
  cases covered with
  | nil => rfl
  | cons p rest =>
    obtain ⟨now, c⟩ := p
    rw [following_cons]
    split
    · rename_i heq
      rw [heq, maximalRuns_cons, if_pos rfl, List.nil_append]
    · rfl

/-- The characters that a row shows of a line, each with the highlights that cover it. -/
def rowCovered (line : List Char) (row : Row) (highlights : List Highlight) :
    List (List Highlight × Char) :=
  (rowText line row).mapIdx fun j c => (covering highlights line.length (row.start + j), c)

theorem covering_of_length_le {highlights : List Highlight} {length i : Nat} (h : length ≤ i) :
    covering highlights length i = [] := by
  rw [covering_eq_nil]
  rintro ⟨highlight, -, hcovers⟩
  unfold Highlight.Covers Highlight.stopOn at hcovers
  omega

theorem lastCover_rowCovered {line : List Char} {row : Row} (highlights : List Highlight)
    (hlt : row.start < row.stop) (hstop : row.stop ≤ line.length) :
    lastCover [] (rowCovered line row highlights) =
      covering highlights line.length (row.stop - 1) := by
  have hlength : (rowText line row).length = row.stop - row.start := length_rowText hstop
  have hlast : row.start + (row.stop - row.start - 1) = row.stop - 1 := by omega
  have hin : row.stop - row.start - 1 < (rowText line row).length := by omega
  rw [lastCover, rowCovered, List.getLast?_eq_getElem?, List.length_mapIdx, List.getElem?_mapIdx,
    hlength, List.getElem?_eq_getElem hin]
  simp only [Option.map_some, Option.getD_some, hlast]

/-- A row of a line has the elements of its runs. Where another run starts behind its last
character, it has one more, for nothing of that run. -/
theorem runElementsIn_rowNodes {line : List Char} {row : Row} (highlights : List Highlight)
    (hle : row.start ≤ row.stop) (hstop : row.stop ≤ line.length)
    (hlt : row.start < row.stop ∨ row.stop = line.length) :
    runElementsIn (rowNodes line row highlights) =
      (maximalRuns (rowCovered line row highlights)).map (fun run => (runTag run.1, run.2)) ++
        cutElement (covering highlights line.length (row.stop - 1))
          (covering highlights line.length row.stop) := by
  obtain ⟨-, hinside, hafter⟩ := runElementsIn_runNodes (highlights.map (clip line.length))
    (row.stop == line.length) [] row.start (rowText line row)
  simp only [coverOf_eq_covering, maximalRuns_following_nil] at hafter
  rw [length_rowText hstop, Nat.add_sub_cancel' hle, ← rowCovered] at hafter
  have hcut : cutElement (lastCover [] (rowCovered line row highlights))
      (covering highlights line.length row.stop) =
        cutElement (covering highlights line.length (row.stop - 1))
          (covering highlights line.length row.stop) := by
    rcases hlt with hlt | hend
    · rw [lastCover_rowCovered highlights hlt hstop]
    · rw [covering_of_length_le (Nat.le_of_eq hend.symm), cutElement_nil, cutElement_nil]
  rw [rowNodes, runElementsIn_append, ← rowText, hinside, hafter, hcut]
  rfl

/-- In the markup of a row that a line is shown on, each maximal run of characters under the same
highlights has one element around exactly its characters. There is one element more, which is empty,
where the line goes on behind the row under highlights that its last character does not have. -/
theorem element_of_each_run (options : Options) (line : List Char) (highlights : List Highlight)
    (row : Row)
    (hrow : row ∈ lineRows line.length (highlightSpan highlights line.length)
      options.htmlColumns) :
    let last := covering highlights line.length (row.stop - 1)
    let next := covering highlights line.length row.stop
    ∃ tokens, read (printAll (rowNodes line row highlights)) = some tokens ∧
      runElements tokens =
        (maximalRuns (rowCovered line row highlights)).map (fun run => (runTag run.1, run.2)) ++
          (if next = [] ∨ next = last then [] else [(runTag next, [])]) ∧
      ((∀ element ∈ runElements tokens, element.2 ≠ []) ↔ next = [] ∨ next = last) ∧
      ((runElements tokens).length = (maximalRuns (rowCovered line row highlights)).length ↔
        next = [] ∨ next = last) := by
  intro last next
  have hcolumns : 0 < options.htmlColumns := by
    have := options.le_htmlColumns
    omega
  have htiles : Tiles line.length options.htmlColumns _
      (lineRows line.length (highlightSpan highlights line.length) options.htmlColumns) :=
    tiles_lineRows hcolumns _
  obtain ⟨-, hle, hstop, -⟩ := htiles.bounds (lineStart_le ..) row hrow
  have hlt : row.start < row.stop ∨ row.stop = line.length := by
    by_cases hline : 0 < line.length
    · exact .inl (htiles.start_lt_stop hcolumns (lineStart_lt hline ..) row hrow)
    · exact .inr (by omega)
  have helements : runElements (shownAll (rowNodes line row highlights)) =
      (maximalRuns (rowCovered line row highlights)).map (fun run => (runTag run.1, run.2)) ++
        (if next = [] ∨ next = last then [] else [(runTag next, [])]) :=
    runElementsIn_rowNodes highlights hle hstop hlt
  have hfilled : ∀ element ∈ (maximalRuns (rowCovered line row highlights)).map
      (fun run => (runTag run.1, run.2)), element.2 ≠ [] := by
    intro element helement
    obtain ⟨run, hrun, rfl⟩ := List.mem_map.mp helement
    exact ne_nil_of_mem_maximalRuns hrun
  refine ⟨_, read_printAll _, helements, ?_, ?_⟩
  · rw [helements]
    by_cases hends : next = [] ∨ next = last
    · simpa [hends] using hfilled
    · simp [hends]
  · rw [helements, List.length_append, List.length_map]
    by_cases hends : next = [] ∨ next = last <;> simp [hends]

/-- The first row of a line that is cut inside a run. -/
theorem element_of_each_run_crossing :
    let line := "sum = left_hand + right_hand".toList
    let left : Highlight := ⟨0, 6, 9, some "text".toList⟩
    let right : Highlight := ⟨0, 18, 10, some "number".toList⟩
    let row : Row := ⟨1, 21⟩
    row ∈ lineRows line.length (highlightSpan [left, right] line.length) 20 ∧
      ∃ tokens, read (printAll (rowNodes line row [left, right])) = some tokens ∧
        runElements tokens = [(runTag [left], "left_hand".toList), (runTag [right], "rig".toList)] ∧
        ∀ element ∈ runElements tokens, element.2 ≠ [] := by
  intro line left right row
  have hrow : row ∈ lineRows line.length (highlightSpan [left, right] line.length) 20 := by
    have hfirst : firstStart line.length (highlightSpan [left, right] line.length) = 1 := by decide
    have hrows : rowsFrom line.length 20 1 = [⟨1, 21⟩, ⟨21, 28⟩] := by
      rw [rowsFrom, if_pos (by decide), rowsFrom, if_neg (by decide)]
      rfl
    rw [lineRows, if_neg (by decide), hfirst, hrows]
    decide
  obtain ⟨tokens, hread, helements, hfilled, -⟩ :=
    element_of_each_run { htmlColumns := 20 } line [left, right] row hrow
  have hsame : covering [left, right] line.length row.stop =
      covering [left, right] line.length (row.stop - 1) := by decide
  refine ⟨hrow, tokens, hread, ?_, hfilled.mpr (.inr hsame)⟩
  rw [helements, if_pos (.inr hsame)]
  decide

/-- A row that ends in front of another run has an element for that run, with no character in it. -/
theorem element_of_cut_run :
    ¬ ∀ (options : Options) (line : List Char) (highlights : List Highlight) (row : Row),
      row ∈ lineRows line.length (highlightSpan highlights line.length) options.htmlColumns →
      (∀ h ∈ highlights, 0 ≤ h.offset ∧ 0 ≤ h.length) →
      ∀ tokens, read (printAll (rowNodes line row highlights)) = some tokens →
        (runElements tokens).length = (maximalRuns (rowCovered line row highlights)).length := by
  intro h
  let line := "aaaaaaaaaaaaaaaaaaaab".toList
  let highlights : List Highlight := [⟨0, 0, 1, none⟩, ⟨0, 20, 1, none⟩]
  have hrow : (⟨0, 20⟩ : Row) ∈ lineRows line.length (highlightSpan highlights line.length) 20 := by
    have hfirst : firstStart line.length (highlightSpan highlights line.length) = 0 := by decide
    have hrows : rowsFrom line.length 20 0 = [⟨0, 20⟩, ⟨20, 21⟩] := by
      rw [rowsFrom, if_pos (by decide), rowsFrom, if_neg (by decide)]
      rfl
    rw [lineRows, if_neg (by decide), hfirst, hrows]
    decide
  have hcount :=
    h { htmlColumns := 20 } line highlights ⟨0, 20⟩ hrow (by decide) _ (read_printAll _)
  have helements : runElements (shownAll (rowNodes line ⟨0, 20⟩ highlights)) = _ ++
      cutElement (covering highlights line.length 19) (covering highlights line.length 20) :=
    runElementsIn_rowNodes highlights (by decide) (by decide) (.inl (by decide))
  have hcut : cutElement (covering highlights line.length 19) (covering highlights line.length 20) =
      [(runTag [⟨0, 20, 1, none⟩], [])] := by decide
  rw [helements, hcut, List.length_append, List.length_map] at hcount
  exact Nat.succ_ne_self _ hcount

end SourceReport.Markup

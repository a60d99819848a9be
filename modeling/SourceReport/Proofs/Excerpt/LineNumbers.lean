import SourceReport.Proofs.Frame.Tiling
import SourceReport.Proofs.Markup.Runs
import SourceReport.Proofs.Text.SplitLines

namespace SourceReport
open Text

/-- Numbers from a first to a last one, each at least once and none out of order. -/
structure RunsThrough (first last : Int) (numbers : List Int) : Prop where
  ordered : numbers.Pairwise (· ≤ ·)
  mem_iff : ∀ m, m ∈ numbers ↔ first ≤ m ∧ m ≤ last

theorem runsThrough_flatMap {n : Int} {count : Nat} {numbersOf : Nat → List Int}
    (h : ∀ k < count, numbersOf k ≠ [] ∧ ∀ m ∈ numbersOf k, m = n + k) :
    RunsThrough n (n + count - 1) ((List.range count).flatMap numbersOf) where
  ordered := by
    refine List.pairwise_flatMap.mpr ⟨?_, ?_⟩
    · intro k hk
      obtain ⟨-, hsame⟩ := h k (List.mem_range.mp hk)
      refine List.pairwise_of_forall_mem_list fun a ha b hb => ?_
      have ha := hsame a ha
      have hb := hsame b hb
      omega
    · refine List.pairwise_lt_range.imp_of_mem ?_
      intro j k hj hk hlt a ha b hb
      have ha := (h j (List.mem_range.mp hj)).2 a ha
      have hb := (h k (List.mem_range.mp hk)).2 b hb
      omega
  mem_iff m := by
    rw [List.mem_flatMap]
    constructor
    · rintro ⟨k, hk, hm⟩
      have hk := List.mem_range.mp hk
      have hm := (h k hk).2 m hm
      omega
    · rintro ⟨hfirst, hlast⟩
      have hk : (m - n).toNat < count := by omega
      obtain ⟨hne, hsame⟩ := h (m - n).toNat hk
      obtain ⟨a, ha⟩ := List.exists_mem_of_ne_nil _ hne
      have heq : a = m := by
        rw [hsame a ha]
        omega
      exact ⟨(m - n).toNat, List.mem_range.mpr hk, heq ▸ ha⟩

namespace Frame

def BlockLine.number? : BlockLine → Option Int
  | row number _ _ _ => number
  | _ => none

theorem BlockLine.print_row_number {l : Layout} {margin : Nat} (hl : l.margin = margin) (m : Int)
    (cutBefore : Bool) (shown : List Char) (cutAfter : Bool) :
    ∃ rest, print l (.row (some m) cutBefore shown cutAfter) =
      (decimal m ++ List.replicate (margin - (decimal m).length) ' ') ++
        ' ' :: l.glyphs.row :: rest := by
  have hspaces : ((margin : Int) - (decimal m).length).toNat = margin - (decimal m).length := by
    omega
  refine ⟨' ' :: ((if cutBefore then l.glyphs.ellipsis else []) ++ shown ++
    (if cutAfter then l.glyphs.ellipsis else [])), ?_⟩
  rw [print, hl, numberColumns, times, Option.elim_some, hspaces]
  simp only [List.append_assoc, List.cons_append, List.nil_append]

theorem filterMap_number?_filter_isRow (drawn : List BlockLine) :
    (drawn.filter BlockLine.isRow).filterMap BlockLine.number? =
      drawn.filterMap BlockLine.number? := by
  rw [List.filterMap_filter]
  congr 1
  funext b
  cases b <;> rfl

theorem numbers_linePart {l : Layout} {e : Excerpt} {n : Int} (hn : e.lineNumber = some n) {k : Nat}
    (hk : k < e.logicalLines.length) :
    (linePart l e k).filterMap BlockLine.number? ≠ [] ∧
      ∀ m ∈ (linePart l e k).filterMap BlockLine.number?, m = n + k := by
  have hline : e.logicalLines[k]? = some e.logicalLines[k] := List.getElem?_eq_getElem hk
  obtain ⟨first, rest, hrows, -⟩ :=
    (l.tiles_rows (highlightsOn e k) e.logicalLines[k].length).exists_first
  change rowsOn l e k e.logicalLines[k] = _ at hrows
  rw [← filterMap_number?_filter_isRow, filter_isRow_linePart l hline, hrows, List.filterMap_map]
  simp [BlockLine.number?, hn]

theorem numbers_body {e : Excerpt} {n : Int} (hn : e.lineNumber = some n) (l : Layout) :
    RunsThrough n (n + e.logicalLines.length - 1)
      ((body l e).filterMap BlockLine.number?) := by
  rw [body_eq_flatMap_linePart, List.filterMap_flatMap]
  exact runsThrough_flatMap fun k hk => numbers_linePart hn hk

theorem numbers_excerptLines {e : Excerpt} (htext : e.text.isEmpty = false) (l : Layout)
    (role : Role) (note : Option (List Char)) :
    (excerptLines l role note e).filterMap BlockLine.number? =
      (body l e).filterMap BlockLine.number? := by
  rw [excerptLines, Excerpt.isEmpty_eq_false_of_text htext, htext]
  cases role <;> simp [Role.opens, Role.closes, BlockLine.number?, List.filterMap_cons]

end Frame

namespace Markup
open SourceReport.Frame

def numberContents (tokens : List Token) : List (List Char) :=
  contents "span".toList [("class".toList, "line-number".toList)] tokens

theorem numberContents_excerptNodes {e : Excerpt} {n : Int} (hn : e.lineNumber = some n)
    (options : Options) :
    ∃ numbers, numberContents (shownAll (excerptNodes options e)) = numbers.map decimal ∧
      RunsThrough n (n + e.logicalLines.length - 1) numbers := by
  have hnumber : openingToken .span [(.class_, "line-number".toList)] =
      .opening "span".toList [("class".toList, "line-number".toList)] := by decide
  have hline : openingToken .span [(.class_, "line".toList)] ≠
      .opening "span".toList [("class".toList, "line-number".toList)] := by decide
  have hrow (highlights : List Highlight) (number : Option Int) (cutStart : Bool)
      (line : List Char) (row : Row) :
      contentsIn "span".toList [("class".toList, "line-number".toList)]
        (numberedRow highlights number cutStart line row) = [number.elim [] decimal] := by
    rw [contentsIn_numberedRow _ rfl, if_pos hnumber, if_neg hline, List.append_nil]
  have hnodes : numberContents (shownAll (excerptNodes options e)) = _ :=
    (contentsIn_excerptNodes (by decide) (by decide) options e).trans
      (contentsIn_bodyNodes hrow options e)
  let numbersOf (k : Nat) : List Int :=
    e.logicalLines[k]?.elim [] fun line => (rowsOf options e k line).map fun _ => n + k
  refine ⟨(List.range e.logicalLines.length).flatMap numbersOf, ?_, runsThrough_flatMap ?_⟩
  · rw [hnodes, flatten_mapIdx, List.map_flatMap]
    congr 1
    funext k
    cases hk : e.logicalLines[k]? with
    | none => simp [numbersOf, hk]
    | some line =>
      simp only [numbersOf, hk, hn, Option.map_some, Option.elim_some, List.map_map,
        ← List.map_eq_flatMap]
      rfl
  · intro k hk
    obtain ⟨first, rest, hrows, -⟩ := rowsOf_cover options e k e.logicalLines[k]
    simp [numbersOf, List.getElem?_eq_getElem hk, hrows]

end Markup

namespace Excerpt
open SourceReport.Frame SourceReport.Markup

/-- The number of the last line of an excerpt that starts with line `n`, or `n` itself without
lines. -/
def lastNumber (e : Excerpt) (n : Int) : Int :=
  n + e.text.content.count '\n' - if e.text.content.getLast? = some '\n' then 1 else 0

theorem lastNumber_eq (e : Excerpt) (n : Int) :
    e.lastNumber n = n + (max 1 e.logicalLines.length : Nat) - 1 := by
  rw [lastNumber, logicalLines]
  by_cases h : e.text.content = []
  · simp [h, splitLines]
  · have hlength := length_splitLines h
    have hpos : 0 < (splitLines e.text.content).length :=
      List.length_pos_of_ne_nil (mt splitLines_eq_nil.mp h)
    split at hlength <;> rename_i hend
    · rw [if_pos hend]
      omega
    · rw [if_neg hend]
      omega

theorem margin_eq {e : Excerpt} {n : Int} (hn : e.lineNumber = some n) :
    e.margin = (decimal (e.lastNumber n)).length := by
  rw [margin, hn, lastNumber_eq]

/-- The numbers that an excerpt shows run from one to another: those of its rows, drawn or in
markup, or that of its place if it has no text. -/
structure Counts (e : Excerpt) (n last : Int) : Prop where
  drawn : e.text.isEmpty = false → ∀ l role note,
    RunsThrough n last ((excerptLines l role note e).filterMap BlockLine.number?)
  marked : e.text.isEmpty = false → ∀ options, ∃ tokens numbers,
    read (e.toHtml options) = some tokens ∧ numberContents tokens = numbers.map decimal ∧
      RunsThrough n last numbers
  place : e.text.isEmpty = true → last = n ∧
    (∃ column, e.locator = e.source.getD [] ++ ':' :: (decimal n ++ column)) ∧
    ∀ l role note, excerptLines l role note e = [.place e.locator]
  /-- A row starts with its number, which spaces fill up to the margin. -/
  fits : ∀ m, n ≤ m → m ≤ last → ∀ (l : Layout), l.margin = e.margin →
    ∀ cutBefore shown cutAfter, ∃ spaces rest,
      BlockLine.print l (.row (some m) cutBefore shown cutAfter) =
        (decimal m ++ List.replicate spaces ' ') ++ ' ' :: l.glyphs.row :: rest ∧
      (decimal m ++ List.replicate spaces ' ').length = e.margin
  margin_eq : e.margin = (decimal last).length

theorem length_logicalLines_pos {e : Excerpt} (h : e.text.isEmpty = false) :
    0 < e.logicalLines.length := by
  refine List.length_pos_of_ne_nil fun hnil => ?_
  rw [logicalLines_eq_nil.mp hnil] at h
  exact Bool.noConfusion h

theorem counts_lastNumber {e : Excerpt} {n : Int} (hn : e.lineNumber = some n) (h1 : 1 ≤ n) :
    e.Counts n (e.lastNumber n) where
  drawn htext l role note := by
    have hlines := length_logicalLines_pos htext
    rw [numbers_excerptLines htext, lastNumber_eq, Nat.max_eq_right hlines]
    exact numbers_body hn l
  marked htext options := by
    have hlines := length_logicalLines_pos htext
    obtain ⟨numbers, hcontents, hnumbers⟩ := numberContents_excerptNodes hn options
    rw [lastNumber_eq, Nat.max_eq_right hlines]
    exact ⟨_, numbers, read_printAll _, hcontents, hnumbers⟩
  place htext := by
    have hnone := logicalLines_eq_nil.mpr htext
    have hempty : e.isEmpty = false := by simp [isEmpty, hn]
    refine ⟨?_, ?_, fun l role note => ?_⟩
    · rw [lastNumber_eq, hnone]
      exact Int.add_sub_cancel n 1
    · rw [locator, hn]
      exact ⟨_, rfl⟩
    · rw [excerptLines, hempty, htext]
      rfl
  fits m hm hlast l hl cutBefore shown cutAfter := by
    have hfits : (decimal m).length ≤ e.margin := by
      rw [margin_eq hn]
      exact length_decimal_le (by omega) hlast
    obtain ⟨rest, hprint⟩ := BlockLine.print_row_number hl m cutBefore shown cutAfter
    refine ⟨e.margin - (decimal m).length, rest, hprint, ?_⟩
    rw [List.length_append, List.length_replicate]
    omega
  margin_eq := margin_eq hn

/-- Splitting a text into lines loses nothing of it, and lines that are put together are found
again. So an excerpt has a line exactly if it has text, and its numbers run from that of its first
line on, one more for each line feed but one that ends the text. -/
theorem lines_lossless (text : List Char) (lines : List (List Char)) (e : Excerpt) :
    (∀ line ∈ splitLines text, '\n' ∉ line) ∧
    (text ≠ [] → joinLines (splitLines text) ++
      (if text.getLast? = some '\n' then ['\n'] else []) = text) ∧
    (lines ≠ [] → (∀ line ∈ lines, '\n' ∉ line) →
      splitLines (joinLines lines ++ ['\n']) = lines ∧
      (lines.getLast? ≠ some [] → splitLines (joinLines lines) = lines)) ∧
    (e.logicalLines ≠ [] ↔ e.text.isEmpty = false) ∧
    ∀ n, e.lineNumber = some n → 1 ≤ n → e.Counts n (n + e.text.content.count '\n' -
      if e.text.content.getLast? = some '\n' then 1 else 0) := by
  refine ⟨not_mem_of_mem_splitLines, joinLines_splitLines, fun hne hfree => ⟨?_, ?_⟩, ?_,
    fun n hn h1 => counts_lastNumber hn h1⟩
  · exact splitLines_joinLines_append hne hfree
  · exact splitLines_joinLines hne hfree
  · rw [Ne, logicalLines_eq_nil, Bool.not_eq_true]

def gappedExcerpt : Excerpt where
  lineNumber := some 9
  text := .owned "a\n\nb\n".toList

/-- Three line feeds end three lines, of which the last has a number of two digits. -/
theorem lines_lossless_gapped :
    let text := "a\n\nb\n".toList
    let lines := [['a'], [], ['b']]
    text ≠ [] ∧ joinLines (splitLines text) ++ ['\n'] = text ∧
    lines ≠ [] ∧ (∀ line ∈ lines, '\n' ∉ line) ∧ lines.getLast? ≠ some [] ∧
    splitLines (joinLines lines ++ ['\n']) = lines ∧ splitLines (joinLines lines) = lines ∧
    gappedExcerpt.lineNumber = some 9 ∧ (1 : Int) ≤ 9 ∧ gappedExcerpt.Counts 9 11 ∧
    gappedExcerpt.drawnLines none {} {} =
      ["   ╷".toList, "9  │ a".toList, "10 │ ".toList, "11 │ b".toList, "   ╵".toList] := by
  intro text lines
  have htext : text ≠ [] := by decide
  have hlines : lines ≠ [] := by decide
  have hfree : ∀ line ∈ lines, '\n' ∉ line := by decide
  have hlast : lines.getLast? ≠ some [] := by decide
  obtain ⟨-, hjoin, hsplit, -, hcounts⟩ := lines_lossless text lines gappedExcerpt
  obtain ⟨hended, hopen⟩ := hsplit hlines hfree
  exact ⟨htext, hjoin htext, hlines, hfree, hlast, hended, hopen hlast, rfl, by decide,
    hcounts 9 rfl (by decide), by decide +kernel⟩

end Excerpt

end SourceReport

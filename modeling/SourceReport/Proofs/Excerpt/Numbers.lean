import SourceReport.Grammar.Failure
import SourceReport.Proofs.Excerpt.Between
import SourceReport.Proofs.Text.Pieces

namespace SourceReport
open Text

theorem Position.atOffset_natCast {buffer : List Char} {n : Nat} (h : n ≤ buffer.length) :
    Position.atOffset buffer n =
      { buffer, offset := n, line := (buffer.take n).count '\n'
        column := n - lastLineStart (buffer.take n) } := by
  rw [Position.atOffset, slice_zero_natCast h]

namespace Excerpt

/-- The text is a stretch of the buffer, with the line and the column where that begins. -/
def CutFrom (buffer : List Char) (e : Excerpt) : Prop :=
  ∃ before passed rest, buffer = before ++ (passed ++ rest) ∧ e.text.content = passed ∧
    e.lineNumber = some (before.count '\n' + 1) ∧
    e.firstLineOffset = before.length - lastLineStart before

theorem cutFrom_clamp {buffer : List Char} {start stop : Nat} {e : Excerpt} (hle : start ≤ stop)
    (hstop : stop ≤ buffer.length)
    (htext : e.text = .borrowed (.clamp buffer start (some stop)))
    (hline : e.lineNumber = some ((buffer.take start).count '\n' + 1))
    (hoffset : e.firstLineOffset = start - lastLineStart (buffer.take start)) :
    CutFrom buffer e := by
  obtain ⟨before, passed, rest, rfl, rfl, rfl⟩ := exists_split hle hstop
  rw [List.take_left] at hline hoffset
  refine ⟨before, passed, rest, rfl, ?_, hline, hoffset⟩
  rw [htext, Window.clamp_natCast hle hstop]
  show ((before ++ (passed ++ rest)).take (before ++ passed).length).drop before.length = passed
  rw [← List.append_assoc, List.take_left, List.drop_left]

/-- The numbers shown with an excerpt are true of a buffer and of a place in it. -/
structure Numbered (buffer : List Char) (p : Position) (withColumn : Bool) (e : Excerpt) :
    Prop where
  /-- A line is the part of the piece with its number that comes after what is left out before it,
  and all of that part unless it is the last line. -/
  lines : ∀ (k : Nat) (line : List Char), e.logicalLines[k]? = some line →
    ∃ (number : Int) (index : Nat) (left more : List Char),
      e.lineNumber = some number ∧ (index : Int) = number - 1 + k ∧
      (pieces '\n' buffer)[index]? = some (left ++ (line ++ more)) ∧
      (left.length : Int) = (if k = 0 then e.firstLineOffset else 0) ∧
      (k + 1 < e.logicalLines.length → more = [])
  locator_eq : e.locator = e.source.getD [] ++
    (':' :: decimal (p.line + 1) ++ if withColumn then ':' :: decimal (p.column + 1) else [])

theorem CutFrom.exists_piece {buffer : List Char} {e : Excerpt} (h : CutFrom buffer e) (k : Nat)
    (line : List Char) (hk : e.logicalLines[k]? = some line) :
    ∃ (number : Int) (index : Nat) (left more : List Char),
      e.lineNumber = some number ∧ (index : Int) = number - 1 + k ∧
      (pieces '\n' buffer)[index]? = some (left ++ (line ++ more)) ∧
      (left.length : Int) = (if k = 0 then e.firstLineOffset else 0) ∧
      (k + 1 < e.logicalLines.length → more = []) := by
  obtain ⟨before, passed, rest, rfl, hpassed, hnumber, hoffset⟩ := h
  rw [logicalLines, hpassed] at hk ⊢
  obtain ⟨left, more, hpiece, hleft, hmore⟩ := exists_piece_of_stretch before rest hk
  refine ⟨_, _, left, more, hnumber, ?_, hpiece, ?_, hmore⟩
  · omega
  · rw [hoffset]
    split at hleft <;> omega

theorem locator_of_highlight {e : Excerpt} {n : Int} {h : Highlight}
    (hline : e.lineNumber = some n) (hh : e.highlights = [h]) (h0 : h.line = 0) :
    e.locator = e.source.getD [] ++
      (':' :: decimal n ++ ':' :: decimal (e.firstLineOffset + h.offset + 1)) := by
  rw [locator, hline, hh]
  simp only [h0, if_true]

theorem locator_of_no_highlight {e : Excerpt} {n : Int} (hline : e.lineNumber = some n)
    (hh : e.highlights = []) : e.locator = e.source.getD [] ++ (':' :: decimal n ++ []) := by
  rw [locator, hline, hh]

theorem Numbered.withSource {buffer : List Char} {p : Position} {withColumn : Bool} {e : Excerpt}
    (h : Numbered buffer p withColumn e) (name : List Char) :
    Numbered buffer p withColumn (e.withSource name) where
  lines := h.lines
  locator_eq := by
    have hplace := h.locator_eq
    rw [locator] at hplace
    have hrest := List.append_cancel_left hplace
    rw [locator]
    exact congrArg (name ++ ·) hrest

section
variable {buffer : List Char} {a : Nat}

theorem numbered_atPosition (ha : a ≤ buffer.length) :
    Numbered buffer (.atOffset buffer a) true (atPosition (.atOffset buffer a)) := by
  obtain ⟨hstart, hstop⟩ := lineEnd_bounds buffer a
  rw [resolve_natCast ha] at hstart
  have hcut : CutFrom buffer (atPosition (.atOffset buffer a)) := by
    rw [Position.atOffset_natCast ha]
    exact cutFrom_clamp hstart hstop rfl rfl rfl
  have hplace := locator_of_highlight (e := atPosition (.atOffset buffer a)) rfl rfl rfl
  refine ⟨hcut.exists_piece, ?_⟩
  rw [hplace, if_pos rfl]
  simp only [atPosition, Int.add_zero]

theorem numbered_between {b : Nat} (hab : a ≤ b) (hb : b ≤ buffer.length) :
    Numbered buffer (.atOffset buffer a) (decide ('\n' ∉ (buffer.take b).drop a))
      (between (.atOffset buffer a) (.atOffset buffer b)) := by
  obtain ⟨before, passed, rest, rfl, rfl, rfl⟩ := exists_split hab hb
  have hbetween := between_atOffset_append before passed rest
  have hslice : ((before ++ (passed ++ rest)).take (before ++ passed).length).drop before.length =
      passed := by
    rw [← List.append_assoc, List.take_left, List.drop_left]
  rw [List.append_assoc before passed rest] at hbetween
  have hcut : CutFrom (before ++ (passed ++ rest))
      (between (.atOffset (before ++ (passed ++ rest)) before.length)
        (.atOffset (before ++ (passed ++ rest)) (before ++ passed).length)) := by
    rw [hbetween]
    exact ⟨before, passed, rest, rfl, hslice, rfl, rfl⟩
  refine ⟨hcut.exists_piece, ?_⟩
  rw [hslice, hbetween, Position.atOffset_append]
  by_cases hmem : '\n' ∈ passed
  · rw [locator_of_no_highlight rfl (if_pos hmem)]
    simp [hmem]
  · rw [locator_of_highlight rfl (if_neg hmem) rfl]
    simp [hmem]

theorem line_eq_line_iff {b : Nat} (hab : a ≤ b) (hb : b ≤ buffer.length) :
    (Position.atOffset buffer a).line = (Position.atOffset buffer b).line ↔
      '\n' ∉ (buffer.take b).drop a := by
  obtain ⟨before, passed, rest, rfl, rfl, rfl⟩ := exists_split hab hb
  have ha : before.length ≤ (before ++ (passed ++ rest)).length := Nat.le_trans hab hb
  rw [Position.atOffset_natCast ha, Position.atOffset_natCast hb, List.take_left,
    ← List.append_assoc, List.take_left, List.drop_left, List.count_append,
    ← List.count_eq_zero]
  dsimp only
  omega

theorem numbered_onLine (ha : a ≤ buffer.length) (length : Int) (comment : Option (List Char)) :
    let p := Position.atOffset buffer a
    Numbered buffer p true
      (onLine (some p.line)
        (.borrowed (.clamp buffer (a - p.column) (some (lineEnd buffer (a - p.column)))))
        p.column length comment) := by
  intro p
  have hp : p = { buffer, offset := a, line := (buffer.take a).count '\n'
                  column := a - lastLineStart (buffer.take a) } := Position.atOffset_natCast ha
  generalize hs : lastLineStart (buffer.take a) = start at hp
  have hle : start ≤ a := by
    have hlast := lastLineStart_le (buffer.take a)
    rw [List.length_take] at hlast
    omega
  have hstart : (a : Int) - p.column = start := by
    rw [hp]
    dsimp only
    omega
  -- no line feed lies between the start of the line and the place
  have hsplit : buffer.take a = buffer.take start ++ (buffer.take a).drop start := by
    have htake : buffer.take start = (buffer.take a).take start := by
      rw [List.take_take, Nat.min_eq_left hle]
    rw [htake, List.take_append_drop]
  have hfree : '\n' ∉ (buffer.take a).drop start := by
    rw [← hs]
    exact not_mem_drop_lastLineStart _
  have hcount : (buffer.take start).count '\n' = (buffer.take a).count '\n' := by
    rw [hsplit, List.count_append, List.count_eq_zero.mpr hfree, Nat.add_zero]
  have hlast : lastLineStart (buffer.take start) = start := by
    rw [hsplit, lastLineStart_append_of_not_mem _ hfree] at hs
    exact hs
  obtain ⟨hbegin, hstop⟩ := lineEnd_bounds buffer start
  rw [resolve_natCast (Nat.le_trans hle ha)] at hbegin
  rw [hstart]
  refine ⟨CutFrom.exists_piece (cutFrom_clamp hbegin hstop rfl ?_ ?_), ?_⟩
  · rw [hcount, hp]
    rfl
  · rw [hlast]
    exact (Int.sub_self _).symm
  · rw [locator_of_highlight rfl rfl rfl, if_pos rfl]
    simp only [onLine, Int.zero_add]

theorem numbered_ofMatch {b : Nat} (hab : a ≤ b) (hb : b ≤ buffer.length) (path : List Char)
    (comment : Option (List Char)) :
    Numbered buffer (.atOffset buffer a) (decide ('\n' ∉ (buffer.take b).drop a))
      (ofMatch buffer a b path comment) := by
  have hlines := line_eq_line_iff hab hb
  unfold ofMatch
  by_cases hmem : '\n' ∈ (buffer.take b).drop a
  · have hne : (Position.atOffset buffer a).line ≠ (Position.atOffset buffer b).line := by
      intro heq
      exact hlines.mp heq hmem
    rw [if_pos hne]
    exact (numbered_between hab hb).withSource path
  · have heq := hlines.mpr hmem
    have hone : decide ('\n' ∉ (buffer.take b).drop a) = true := decide_eq_true hmem
    rw [if_neg (not_not_intro heq), hone]
    exact (numbered_onLine (Nat.le_trans hab hb) _ comment).withSource path

theorem numbered_failure (ha : a ≤ buffer.length) (expected : List (List Char))
    (sourceName : Option (List Char)) :
    Numbered buffer (.atOffset buffer a) true
      (Grammar.Failure.excerpt ⟨buffer, a, expected⟩ (.atOffset buffer a) sourceName) := by
  unfold Grammar.Failure.excerpt
  cases sourceName with
  | none => exact numbered_onLine ha _ _
  | some name => exact (numbered_onLine ha _ _).withSource name

end

/-- An excerpt made from a buffer for a place, a range, a match or a failed parse shows true numbers.
It names a column exactly if what it is made for lies on one line. -/
theorem numbers_true {κ : Type} (buffer : List Char) (a b : Nat) (hab : a ≤ b)
    (hb : b ≤ buffer.length) (path : List Char) (comment : Option (List Char))
    (expected : List (List Char)) (sourceName : Option (List Char)) (kind : κ) :
    ∃ p q matched d failed, Position.at? buffer a = .ok p ∧ Position.at? buffer b = .ok q ∧
      Numbered buffer p true (atPosition p) ∧
      Numbered buffer p (decide ('\n' ∉ (buffer.take b).drop a)) (between p q) ∧
      ofMatch? buffer a b path comment = .ok matched ∧
      Numbered buffer p (decide ('\n' ∉ (buffer.take b).drop a)) matched ∧
      Grammar.Failure.diagnostic ⟨buffer, a, expected⟩ sourceName kind = .ok d ∧
      d.excerpts = [failed] ∧ Numbered buffer p true failed := by
  have ha : a ≤ buffer.length := Nat.le_trans hab hb
  have hp := Position.at?_natCast ha
  have hq := Position.at?_natCast hb
  have hmatch : ofMatch? buffer a b path comment = .ok (ofMatch buffer a b path comment) := by
    rw [ofMatch?, hp, hq]
    rfl
  have hdiagnostic : Grammar.Failure.diagnostic ⟨buffer, a, expected⟩ sourceName kind =
      .ok (.new kind "Invalid syntax".toList (Grammar.expectedMessage expected)
        (Grammar.Failure.excerpt ⟨buffer, a, expected⟩ (.atOffset buffer a) sourceName)) := by
    rw [Grammar.Failure.diagnostic, hp]
    rfl
  exact ⟨_, _, _, _, _, hp, hq, numbered_atPosition ha, numbered_between hab hb,
    hmatch, numbered_ofMatch hab hb path comment, hdiagnostic, rfl,
    numbered_failure ha expected sourceName⟩

/-- A match from the middle of the first line over an empty one into the third, and a failure in the
same place. -/
theorem numbers_true_lines :
    1 ≤ 5 ∧ 5 ≤ "ab\n\ncd".toList.length ∧
      ∃ p matched d failed, Position.at? "ab\n\ncd".toList 1 = .ok p ∧
        ofMatch? "ab\n\ncd".toList 1 5 ['f'] none = .ok matched ∧
        matched.logicalLines = [['b'], [], ['c']] ∧ matched.locator = "f:1".toList ∧
        Numbered "ab\n\ncd".toList p false matched ∧
        Grammar.Failure.diagnostic ⟨"ab\n\ncd".toList, 1, []⟩ none Severity.error = .ok d ∧
        d.excerpts = [failed] ∧ failed.logicalLines = [['a', 'b']] ∧
        failed.locator = ":1:2".toList ∧ Numbered "ab\n\ncd".toList p true failed := by
  obtain ⟨p, q, matched, d, failed, hp, -, -, -, hmatch, hmatched, hd, hfailed, hnumbers⟩ :=
    numbers_true "ab\n\ncd".toList 1 5 (by decide) (by decide) ['f'] none [] none Severity.error
  obtain rfl := Except.ok.inj hmatch
  obtain rfl := Except.ok.inj hd
  obtain rfl := (List.cons.inj hfailed).1
  have hlines : decide ('\n' ∉ ("ab\n\ncd".toList.take 5).drop 1) = false := by decide
  rw [hlines] at hmatched
  exact ⟨by decide, by decide, p, _, _, _, hp, hmatch, by decide, by decide, hmatched, hd, hfailed,
    by decide, by decide, hnumbers⟩

end Excerpt

end SourceReport

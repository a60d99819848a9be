import SourceReport.Excerpt.Make
import SourceReport.Proofs.Text.LineFeeds

namespace SourceReport
open Text

theorem Position.at?_natCast {buffer : List Char} {n : Nat} (h : n ≤ buffer.length) :
    Position.at? buffer n = .ok (.atOffset buffer n) := by
  rw [Position.at?, if_neg (by omega)]

theorem Position.atOffset_append (before rest : List Char) :
    Position.atOffset (before ++ rest) before.length =
      { buffer := before ++ rest, offset := before.length, line := before.count '\n'
        column := before.length - lastLineStart before } := by
  have hle : before.length ≤ (before ++ rest).length := by simp
  rw [Position.atOffset, slice_zero_natCast hle, List.take_left]

theorem Text.Window.clamp_natCast {buffer : List Char} {a b : Nat} (hab : a ≤ b)
    (hb : b ≤ buffer.length) :
    Window.clamp buffer a (some b) = ⟨buffer, a, b, hab, hb⟩ := by
  have hstart : Window.startWithin buffer.length a = a := by
    unfold Window.startWithin
    omega
  have hstop : Window.stopWithin buffer.length a (some b) = b := by
    simp only [Window.stopWithin]
    omega
  simp only [Window.clamp, hstart, hstop]

namespace Excerpt

/-- Skipping as many line feeds as a text holds leads to the start of its last line. -/
theorem skipLines_count (before passed rest : List Char) :
    skipLines (before ++ (passed ++ rest)) before.length (passed.count '\n') =
      some ((before.length + lastLineStart passed : Nat) : Int) := by
  -- on the number of line feeds: the first is found at once, the others from the place after it
  induction hn : passed.count '\n' generalizing before passed with
  | zero =>
    rw [lastLineStart_of_not_mem (List.count_eq_zero.mp hn), skipLines, Nat.add_zero]
  | succ n ih =>
    have hmem : '\n' ∈ passed := List.count_pos_iff.mp (by omega)
    obtain ⟨line, more, rfl, hline⟩ := List.eq_append_cons_of_mem hmem
    have hmore : more.count '\n' = n := by
      rw [List.count_append, List.count_eq_zero.mpr hline, List.count_cons_self] at hn
      omega
    have hbuffer : before ++ (line ++ '\n' :: more ++ rest) =
        (before ++ line ++ ['\n']) ++ (more ++ rest) := by simp
    have hplace : ((before.length + line.length : Nat) : Int) + 1 =
        ((before ++ line ++ ['\n']).length : Int) := by
      simp only [List.length_append, List.length_singleton]
      omega
    have hfound : lineFeedFrom? (before ++ (line ++ '\n' :: more ++ rest)) before.length =
        some (before.length + line.length) := by
      rw [List.append_assoc, List.cons_append]
      exact lineFeedFrom?_append before hline
    rw [skipLines, hfound, Option.bind_some, hplace, hbuffer, ih _ _ hmore,
      lastLineStart_append_cons]
    simp only [List.length_append, List.length_singleton]
    congr 2
    omega

theorem rangeEnd_atOffset {passed : List Char} (before rest : List Char) (hmem : '\n' ∈ passed) :
    rangeEnd (.atOffset (before ++ (passed ++ rest)) before.length)
      (.atOffset (before ++ passed ++ rest) (before ++ passed).length) =
      (before ++ passed).length := by
  have hlines : (((before ++ passed).count '\n' : Int) - before.count '\n').toNat =
      passed.count '\n' := by
    rw [List.count_append]
    omega
  have hsplit : before ++ (passed ++ rest) = (before ++ passed.take (lastLineStart passed)) ++
      (passed.drop (lastLineStart passed) ++ rest) := by
    rw [List.append_assoc, ← List.append_assoc (passed.take _), List.take_append_drop]
  have hlen : (before ++ passed.take (lastLineStart passed)).length =
      before.length + lastLineStart passed := by
    rw [List.length_append, List.length_take, Nat.min_eq_left (lastLineStart_le passed)]
  -- the last line of the range is free of line feeds, so its line goes on at least to its end
  have hend := le_lineEnd_append (before ++ passed.take (lastLineStart passed)) rest
    (not_mem_drop_lastLineStart passed)
  rw [← hsplit, hlen, List.length_drop] at hend
  have hle := lastLineStart_le passed
  rw [Position.atOffset_append, Position.atOffset_append, rangeEnd]
  dsimp only
  rw [hlines, skipLines_count]
  dsimp only
  rw [lastLineStart_append_of_mem before hmem, List.length_append]
  omega

theorem between_atOffset_append (before passed rest : List Char) :
    between (.atOffset (before ++ (passed ++ rest)) before.length)
      (.atOffset (before ++ passed ++ rest) (before ++ passed).length) =
      { lineNumber := some (before.count '\n' + 1)
        firstLineOffset := before.length - lastLineStart before
        text := .borrowed
          { buffer := before ++ (passed ++ rest), start := before.length
            stop := (before ++ passed).length
            start_le_stop := (List.prefix_append before passed).length_le
            stop_le_length := List.IsPrefix.length_le ⟨rest, List.append_assoc before passed rest⟩ }
        highlights := if '\n' ∈ passed then []
          else [{ line := 0, offset := 0, length := passed.length }] } := by
  have hab : before.length ≤ (before ++ passed).length := by simp
  have hb : (before ++ passed).length ≤ (before ++ (passed ++ rest)).length := by simp
  by_cases hmem : '\n' ∈ passed
  · have hcount : 0 < passed.count '\n' := List.count_pos_iff.mpr hmem
    have hne : ¬ ((before.count '\n' : Int) = (before ++ passed).count '\n') := by
      rw [List.count_append]
      omega
    have hstop := rangeEnd_atOffset before rest hmem
    unfold between
    rw [Position.atOffset_append, Position.atOffset_append] at hstop ⊢
    dsimp only at hstop ⊢
    rw [if_neg hne, if_pos hmem, hstop, Window.clamp_natCast hab hb]
  · have heq : (before.count '\n' : Int) = (before ++ passed).count '\n' := by
      rw [List.count_append, List.count_eq_zero.mpr hmem]
      rfl
    have hlast : (before.length : Int) + max 0 ((((before ++ passed).length : Nat) : Int) -
        lastLineStart (before ++ passed) - (before.length - lastLineStart before)) =
        ((before ++ passed).length : Int) := by
      rw [lastLineStart_append_of_not_mem before hmem, List.length_append]
      omega
    unfold between
    rw [Position.atOffset_append, Position.atOffset_append]
    dsimp only
    rw [if_pos heq, if_neg hmem, hlast, Window.clamp_natCast hab hb]
    simp only [Window.length, List.length_append, Nat.add_sub_cancel_left]

/-- Between two offsets of a buffer lies the slice between them, on the line and at the column of
the first. It is highlighted as a whole if it is on one line. -/
theorem between_eq_slice (buffer : List Char) (a b : Nat) (hab : a ≤ b) (hb : b ≤ buffer.length) :
    ∃ start stop, Position.at? buffer a = .ok start ∧ Position.at? buffer b = .ok stop ∧
      (between start stop).text.content = (buffer.take b).drop a ∧
      (between start stop).lineNumber = some ((buffer.take a).count '\n' + 1) ∧
      (between start stop).firstLineOffset =
        ((buffer.take a).reverse.takeWhile (· != '\n')).length ∧
      (between start stop).highlights =
        if '\n' ∈ (buffer.take b).drop a then []
        else [{ line := 0, offset := 0, length := b - a }] := by
  obtain ⟨before, passed, rest, rfl, rfl, rfl⟩ := exists_split hab hb
  have hbetween := between_atOffset_append before passed rest
  have hcut : ((before ++ (passed ++ rest)).take (before ++ passed).length).drop before.length =
      passed := by
    rw [← List.append_assoc, List.take_left, List.drop_left]
  have hlength : ((before ++ passed).length : Int) - before.length = passed.length := by
    rw [List.length_append]
    omega
  have hcolumn : (before.length : Int) - lastLineStart before =
      (before.reverse.takeWhile (· != '\n')).length := by
    have := lastLineStart_add_length before
    omega
  refine ⟨_, _, Position.at?_natCast (by omega), Position.at?_natCast hb, ?_⟩
  rw [List.append_assoc] at hbetween
  rw [hcut, hlength, List.take_left, hbetween]
  exact ⟨hcut, rfl, hcolumn, rfl⟩

/-- From the middle of the first line over an empty one into the third. -/
theorem between_eq_slice_lines :
    1 ≤ 5 ∧ 5 ≤ "ab\n\ncd".toList.length ∧
      ∃ start stop, Position.at? "ab\n\ncd".toList 1 = .ok start ∧
        Position.at? "ab\n\ncd".toList 5 = .ok stop ∧
        (between start stop).text.content = "b\n\nc".toList ∧
        (between start stop).lineNumber = some 1 ∧ (between start stop).firstLineOffset = 1 ∧
        (between start stop).highlights = [] := by
  refine ⟨by decide, by decide, ?_⟩
  exact between_eq_slice "ab\n\ncd".toList 1 5 (by decide) (by decide)

end Excerpt

end SourceReport

import SourceReport.Proofs.Frame.Comments
import SourceReport.Proofs.Sorting

namespace SourceReport.Frame

theorem getElem?_replaced {α : Type} {xs : List α} {k : Nat} (hk : k ≤ xs.length) (y : α)
    (j : Nat) :
    (xs.take k ++ y :: xs.drop (k + 1))[j]? = if j = k then some y else xs[j]? := by
  have hlength : (xs.take k).length = k := List.length_take_of_le hk
  rcases Nat.lt_trichotomy j k with hlt | rfl | hgt
  · rw [if_neg (Nat.ne_of_lt hlt), List.getElem?_append_left (hlength.symm ▸ hlt),
      List.getElem?_take_of_lt hlt]
  · rw [if_pos rfl, List.getElem?_append_right (Nat.le_of_eq hlength), hlength, Nat.sub_self]
    rfl
  · obtain ⟨d, rfl⟩ := Nat.exists_eq_add_of_lt hgt
    rw [if_neg (by omega), List.getElem?_append_right (by omega), hlength,
      show k + d + 1 - k = d + 1 by omega, List.getElem?_cons_succ, List.getElem?_drop]
    congr 1
    omega

namespace Strip

/-- A mark goes past strips where it does not fit, and is then added to one, or starts a new one. -/
theorem exists_slot (m : Mark) (strips : List Strip) :
    ∃ k, k ≤ strips.length ∧ (∀ j < k, ∃ s, strips[j]? = some s ∧ s.fits m = false) ∧
      place m strips =
        strips.take k ++ (strips[k]?.elim (single m) (·.add m) :: strips.drop (k + 1)) := by
  induction strips with
  | nil => exact ⟨0, Nat.le_refl 0, fun j hj => absurd hj (Nat.not_lt_zero j), rfl⟩
  | cons first rest ih =>
    cases hfit : first.fits m with
    | true =>
      refine ⟨0, Nat.zero_le _, fun j hj => absurd hj (Nat.not_lt_zero j), ?_⟩
      rw [place, if_pos hfit]
      rfl
    | false =>
      obtain ⟨k, hk, hpast, hplace⟩ := ih
      refine ⟨k + 1, Nat.succ_le_succ hk, ?_, ?_⟩
      · intro j hj
        cases j with
        | zero => exact ⟨first, rfl, hfit⟩
        | succ j => exact hpast j (Nat.lt_of_succ_lt_succ hj)
      · rw [place, if_neg (by simp [hfit]), hplace]
        rfl

abbrev Placing := List (Mark × Nat)

def Placing.on (placing : Placing) (k : Nat) : List Mark :=
  (placing.filter (·.2 == k)).map Prod.fst

/-- Strips that marks were set on, each mark past those only where it did not fit. -/
structure FirstFit (placing : Placing) (strips : List Strip) : Prop where
  marks_eq : ∀ (k : Nat) s, strips[k]? = some s → s.marks = placing.on k
  slot_lt : ∀ p ∈ placing, p.2 < strips.length
  /-- A mark that goes past a strip starts before the end of the last mark there. -/
  past : ∀ (i : Nat) p, placing[i]? = some p → ∀ k < p.2,
    ∃ last, (Placing.on (placing.take i) k).getLast? = some last ∧ p.1.startColumn < last.endColumn
  cursor_eq : ∀ s ∈ strips, s.marks.getLast?.map Mark.endColumn = some s.cursor

theorem on_append_singleton (placing : Placing) (m : Mark) (k j : Nat) :
    Placing.on (placing ++ [(m, k)]) j = placing.on j ++ if k = j then [m] else [] := by
  rw [Placing.on, List.filter_append, List.map_append, Placing.on, List.filter_singleton]
  cases hk : k == j with
  | true =>
    rw [if_pos (beq_iff_eq.mp hk)]
    rfl
  | false =>
    rw [if_neg (beq_eq_false_iff_ne.mp hk)]
    rfl

namespace FirstFit
variable {placing : Placing} {strips : List Strip}

theorem on_eq_nil (h : FirstFit placing strips) {k : Nat} (hk : strips.length ≤ k) :
    placing.on k = [] := by
  rw [Placing.on, List.map_eq_nil_iff, List.filter_eq_nil_iff]
  intro p hp hslot
  have hlt := h.slot_lt p hp
  rw [beq_iff_eq.mp hslot] at hlt
  omega

theorem marks_slot (h : FirstFit placing strips) (m : Mark) (k : Nat) :
    (strips[k]?.elim (single m) (·.add m)).marks = placing.on k ++ [m] := by
  cases hs : strips[k]? with
  | none =>
    rw [h.on_eq_nil (List.getElem?_eq_none_iff.mp hs)]
    rfl
  | some s =>
    rw [← h.marks_eq k s hs]
    rfl

theorem past_of_not_fits (h : FirstFit placing strips) {m : Mark} {k : Nat} {s : Strip}
    (hs : strips[k]? = some s) (hfit : s.fits m = false) :
    ∃ last, (placing.on k).getLast? = some last ∧ m.startColumn < last.endColumn := by
  obtain ⟨last, hlast, hend⟩ :=
    Option.map_eq_some_iff.mp (h.cursor_eq s (List.mem_of_getElem? hs))
  rw [h.marks_eq k s hs] at hlast
  rw [fits, decide_eq_false_iff_not, ← hend, Nat.not_le] at hfit
  exact ⟨last, hlast, hfit⟩

theorem place (h : FirstFit placing strips) (m : Mark) :
    ∃ k, FirstFit (placing ++ [(m, k)]) (Strip.place m strips) := by
  obtain ⟨k, hk, hpast, hplace⟩ := exists_slot m strips
  have hset := getElem?_replaced hk (strips[k]?.elim (single m) (·.add m))
  have hcursor : (strips[k]?.elim (single m) (·.add m)).cursor = m.endColumn := by
    cases strips[k]? with
    | none => rfl
    | some s => rfl
  rw [← hplace] at hset
  refine ⟨k, { marks_eq := ?marks, slot_lt := ?slot, past := ?past, cursor_eq := ?cursor }⟩
  case marks =>
    intro j s hs
    rw [hset] at hs
    rw [on_append_singleton]
    by_cases hj : j = k
    · rw [if_pos hj] at hs
      rw [← Option.some.inj hs, h.marks_slot, if_pos hj.symm, hj]
    · rw [if_neg hj] at hs
      rw [if_neg (Ne.symm hj), List.append_nil]
      exact h.marks_eq j s hs
  case slot =>
    intro p hp
    have hlength : p.2 < strips.length ∨ p.2 = k := by
      rcases List.mem_append.mp hp with hp | hp
      · exact .inl (h.slot_lt p hp)
      · exact .inr (by rw [List.mem_singleton.mp hp])
    rw [hplace, List.length_append, List.length_cons, List.length_take_of_le hk, List.length_drop]
    omega
  case past =>
    intro i p hi j hj
    rcases Nat.lt_or_ge i placing.length with hlt | hge
    · rw [List.getElem?_append_left hlt] at hi
      rw [List.take_append_of_le_length (Nat.le_of_lt hlt)]
      exact h.past i p hi j hj
    · -- the new mark, which meets the strips as they are now
      have hlast : i = placing.length := by
        have hbound := (List.getElem?_eq_some_iff.mp hi).1
        rw [List.length_append, List.length_singleton] at hbound
        omega
      subst hlast
      rw [List.getElem?_concat_length] at hi
      obtain rfl := Option.some.inj hi
      obtain ⟨s, hs, hfit⟩ := hpast j hj
      rw [List.take_left]
      exact h.past_of_not_fits hs hfit
  case cursor =>
    intro s hs
    obtain ⟨j, hj⟩ := List.mem_iff_getElem?.mp hs
    rw [hset] at hj
    split at hj
    · rw [← Option.some.inj hj, h.marks_slot, hcursor, List.getLast?_concat]
      rfl
    · exact h.cursor_eq s (List.mem_of_getElem? hj)

theorem exists_foldl_place (h : FirstFit placing strips) (marks : List Mark) :
    ∃ more : Placing, more.map Prod.fst = marks ∧
      FirstFit (placing ++ more) (marks.foldl (fun strips m => Strip.place m strips) strips) := by
  induction marks generalizing placing strips with
  | nil => exact ⟨[], rfl, by rwa [List.append_nil]⟩
  | cons m marks ih =>
    obtain ⟨k, hfirst⟩ := h.place m
    obtain ⟨more, hmore, hrest⟩ := ih hfirst
    refine ⟨(m, k) :: more, by rw [List.map_cons, hmore], ?_⟩
    rwa [List.append_assoc, List.singleton_append] at hrest

end FirstFit

/-- The marks of a row are set on strips one by one, from left to right. -/
theorem exists_firstFit (marks : List Mark) :
    ∃ placing : Placing, (placing.map Prod.fst).Perm marks ∧
      (placing.map Prod.fst).Pairwise (fun a b => a.column ≤ b.column) ∧
      FirstFit placing (pack marks) := by
  have hnone : FirstFit [] [] := ⟨nofun, nofun, nofun, nofun⟩
  obtain ⟨placing, hmarks, hfit⟩ :=
    hnone.exists_foldl_place (marks.mergeSort fun a b => decide (a.column ≤ b.column))
  refine ⟨placing, ?_, ?_, hfit⟩
  · rw [hmarks]
    exact List.mergeSort_perm _ _
  · rw [hmarks]
    exact pairwise_mergeSort_key Mark.column marks

/-- A line on which cells stand at their columns, from left to right, with spaces between. -/
structure Draws (cells : List Cell) (drawn : List Char) : Prop where
  apart : cells.Pairwise fun c d => c.stop ≤ d.column
  shown : ∀ c ∈ cells, ShowsAt drawn c.column c.text
  blank : ∀ (i : Nat) ch, drawn[i]? = some ch → (∀ c ∈ cells, i < c.column ∨ c.stop ≤ i) → ch = ' '
  ends : ∀ n, (∀ c ∈ cells, c.stop ≤ n) → drawn.length ≤ n

theorem getElem?_putAt {drawn : List Char} {c : Cell} (h : drawn.length ≤ c.column) {i : Nat}
    {ch : Char} (hi : (putAt drawn c)[i]? = some ch) (hfree : i < c.column ∨ c.stop ≤ i) :
    drawn[i]? = some ch ∨ ch = ' ' := by
  have hlt : i < c.column := by
    have hbound := (List.getElem?_eq_some_iff.mp hi).1
    rw [length_putAt h] at hbound
    omega
  have hfront : (drawn ++ List.replicate (c.column - drawn.length) ' ').length = c.column := by
    rw [List.length_append, List.length_replicate]
    omega
  rw [putAt, List.getElem?_append_left (hfront.symm ▸ hlt)] at hi
  rcases Nat.lt_or_ge i drawn.length with hline | hline
  · rw [List.getElem?_append_left hline] at hi
    exact .inl hi
  · rw [List.getElem?_append_right hline] at hi
    exact .inr (List.mem_replicate.mp (List.mem_of_getElem? hi)).2

theorem getElem?_foldl_putAt {drawn : List Char} {cells : List Cell}
    (hl : ∀ c ∈ cells, drawn.length ≤ c.column)
    (hc : cells.Pairwise fun c d => c.stop ≤ d.column) {i : Nat} {ch : Char}
    (hi : (cells.foldl putAt drawn)[i]? = some ch)
    (hfree : ∀ c ∈ cells, i < c.column ∨ c.stop ≤ i) :
    drawn[i]? = some ch ∨ ch = ' ' := by
  induction cells generalizing drawn with
  | nil => exact .inl hi
  | cons c cs ih =>
    obtain ⟨hfirst, hrest⟩ := List.pairwise_cons.mp hc
    obtain ⟨hcol, -⟩ := List.forall_mem_cons.mp hl
    obtain ⟨hc, hcs⟩ := List.forall_mem_cons.mp hfree
    have hnext : ∀ d ∈ cs, (putAt drawn c).length ≤ d.column := by
      rw [length_putAt hcol]
      exact hfirst
    obtain hput | hspace := ih hnext hrest hi hcs
    · exact getElem?_putAt hcol hput hc
    · exact .inr hspace

theorem draws_drawRow {cells : List Cell} (h : cells.Pairwise fun c d => c.stop ≤ d.column) :
    Draws cells (drawRow cells) := by
  have hstart : ∀ c ∈ cells, ([] : List Char).length ≤ c.column := fun c _ => Nat.zero_le c.column
  obtain ⟨hshown, hends⟩ := foldl_putAt [] hstart h
  refine ⟨h, hshown, ?_, fun n => hends n (Nat.zero_le n)⟩
  intro i ch hi hfree
  obtain hnil | hspace := getElem?_foldl_putAt hstart h hi hfree
  · cases hnil
  · exact hspace

theorem Ordered.draws_lines {s : Strip} (h : s.Ordered) {k : Nat} {line : List Char}
    (hk : s.lines[k]? = some line) : Draws (s.cells.filter (·.row == k)) line := by
  rw [lines, List.getElem?_map, Option.map_eq_some_iff] at hk
  obtain ⟨row, hrow, rfl⟩ := hk
  obtain ⟨hlt, rfl⟩ := List.getElem?_eq_some_iff.mp hrow
  rw [List.getElem_range]
  exact draws_drawRow (h.row_pairwise k)

end Strip

/-- The marks of a row are packed on strips by first fit. Every mark is set on one strip, on which
the marks stand side by side in the order they were set; the strips before that one had no room for
it. Each piece of a mark is drawn at its own column on its own line of the strip, with nothing but
spaces between the pieces. -/
theorem rowStrips_firstFit (l : Layout) (highlights : List Highlight) (length : Nat) (row : Row)
    (lead : Nat) :
    let strips := rowStrips l highlights length row lead
    (∃ placing : Strip.Placing,
      (placing.map Prod.fst).Perm (highlights.filterMap (l.mark? length row lead)) ∧
      (placing.map Prod.fst).Pairwise (fun a b => a.column ≤ b.column) ∧
      Strip.FirstFit placing strips) ∧
    ∀ s ∈ strips,
      s.marks.Pairwise (fun a b => a.endColumn ≤ b.startColumn) ∧
      (∀ m ∈ s.marks, m.startColumn ≤ m.endColumn ∧ ∀ c ∈ m.cells, c.row < s.lines.length) ∧
      ∀ (k : Nat) line, s.lines[k]? = some line →
        Strip.Draws ((s.marks.flatMap Mark.cells).filter (·.row == k)) line := by
  refine ⟨Strip.exists_firstFit _, ?_⟩
  intro s hs
  have hordered := Strip.ordered_of_mem_pack s hs
  refine ⟨hordered.apart, ?_, fun k line hk => hordered.draws_lines hk⟩
  exact fun m hm => ⟨m.startColumn_le_endColumn, fun c hc =>
    (List.getElem?_eq_some_iff.mp (Strip.getElem?_lines hm hc)).1⟩

def crowdedHighlights : List Highlight :=
  [⟨0, 0, 2, some "left".toList⟩, ⟨0, 4, 1, none⟩, ⟨0, 12, 3, some "right".toList⟩]

/-- The mark between goes to a strip of its own, and the last one back to the first strip. -/
theorem rowStrips_firstFit_crowded :
    let strips := rowStrips (.ofOptions 1 {}) crowdedHighlights 20 ⟨0, 20⟩ 0
    strips.map Strip.lines = [["╶╴ left     ╶─╴ right".toList], ["    ⁃".toList]] ∧
    ∃ placing : Strip.Placing, placing.length = 3 ∧ Strip.FirstFit placing strips := by
  intro strips
  obtain ⟨⟨placing, hmarks, -, hfit⟩, -⟩ :=
    rowStrips_firstFit (.ofOptions 1 {}) crowdedHighlights 20 ⟨0, 20⟩ 0
  have hlines : (rowStrips (.ofOptions 1 {}) crowdedHighlights 20 ⟨0, 20⟩ 0).map Strip.lines =
      [["╶╴ left     ╶─╴ right".toList], ["    ⁃".toList]] := by cbv
  have hcount : (crowdedHighlights.filterMap ((Layout.ofOptions 1 {}).mark? 20 ⟨0, 20⟩ 0)).length =
      3 := by cbv
  refine ⟨hlines, placing, ?_, hfit⟩
  rw [← List.length_map, hmarks.length_eq, hcount]

end SourceReport.Frame

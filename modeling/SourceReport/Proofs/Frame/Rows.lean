import SourceReport.Frame.Row
import Mathlib.Logic.ExistsUnique
import Mathlib.Tactic.ByContra

namespace SourceReport.Frame

/-- Rows that show a line from an offset to its end, one after the other. -/
inductive Tiles (length budget : Nat) : Nat → List Row → Prop
  | last {start : Nat} (h : length ≤ start + budget) : Tiles length budget start [⟨start, length⟩]
  | next {start : Nat} {rest : List Row} (h : start + budget < length)
      (hr : Tiles length budget (start + budget) rest) :
      Tiles length budget start (⟨start, start + budget⟩ :: rest)

theorem tiles_rowsFrom {length budget : Nat} (hb : 0 < budget) (start : Nat) :
    Tiles length budget start (rowsFrom length budget start) := by
  fun_induction rowsFrom length budget start with
  | case1 start h ih => exact .next h.2 ih
  | case2 start h => exact .last (by omega)

/-- Where the first row of a line starts. -/
def lineStart (length : Nat) (span : Option (Int × Int)) (budget : Nat) : Nat :=
  if length ≤ budget then 0 else firstStart length span

theorem tiles_lineRows {length budget : Nat} (hb : 0 < budget) (span : Option (Int × Int)) :
    Tiles length budget (lineStart length span budget) (lineRows length span budget) := by
  unfold lineRows lineStart
  split
  · exact .last (by omega)
  · exact tiles_rowsFrom hb _

theorem lineStart_lt {length : Nat} (h : 0 < length) (span : Option (Int × Int)) (budget : Nat) :
    lineStart length span budget < length := by
  unfold lineStart firstStart
  split
  · exact h
  · cases span <;> dsimp only <;> omega

theorem lineStart_lt_or_zero (length : Nat) (span : Option (Int × Int)) (budget : Nat) :
    lineStart length span budget < length ∨ length = 0 := by
  rcases Nat.eq_zero_or_pos length with hzero | hpos
  · exact .inr hzero
  · exact .inl (lineStart_lt hpos span budget)

theorem lineStart_le (length : Nat) (span : Option (Int × Int)) (budget : Nat) :
    lineStart length span budget ≤ length := by
  unfold lineStart
  split
  · exact Nat.zero_le _
  · exact firstStart_le length span

theorem highlightSpan_le {highlights : List Highlight} {h : Highlight} (hh : h ∈ highlights)
    (length : Int) :
    ∃ first last, highlightSpan highlights length = some (first, last) ∧
      first ≤ min h.offset length := by
  have hmem : min h.offset length ∈ highlights.map fun h => min h.offset length :=
    List.mem_map_of_mem hh
  have hstop : min h.stop length ∈ highlights.map fun h => min h.stop length :=
    List.mem_map_of_mem hh
  obtain ⟨first, hfirst⟩ := Option.isSome_iff_exists.mp (List.isSome_min?_of_mem hmem)
  obtain ⟨last, hlast⟩ := Option.isSome_iff_exists.mp (List.isSome_max?_of_mem hstop)
  refine ⟨first, last, ?_, (List.min?_eq_some_iff.mp hfirst).2 _ hmem⟩
  simp only [highlightSpan, hfirst, hlast]

theorem lineStart_le_first {highlights : List Highlight} {h : Highlight} (hh : h ∈ highlights)
    (length budget : Nat) :
    (lineStart length (highlightSpan highlights length) budget : Int) ≤
      max 0 (min h.offset length) := by
  obtain ⟨first, last, he, hle⟩ := highlightSpan_le hh length
  rw [he]
  unfold lineStart firstStart
  split
  · omega
  · dsimp only
    omega

namespace Tiles
variable {length budget start : Nat} {rows : List Row}

theorem bounds (h : Tiles length budget start rows) (hs : start ≤ length) :
    ∀ r ∈ rows, start ≤ r.start ∧ r.start ≤ r.stop ∧ r.stop ≤ length ∧
      r.stop ≤ r.start + budget := by
  induction h with
  | last h =>
    intro r hr
    rw [List.mem_singleton.mp hr]
    exact ⟨Nat.le_refl _, hs, Nat.le_refl _, h⟩
  | next h _ ih =>
    intro r hr
    rcases List.mem_cons.mp hr with rfl | hr
    · dsimp only
      omega
    · have := ih (by omega) r hr
      omega

theorem start_lt_stop (h : Tiles length budget start rows) (hb : 0 < budget)
    (hs : start < length) : ∀ r ∈ rows, r.start < r.stop := by
  induction h with
  | last =>
    intro r hr
    rw [List.mem_singleton.mp hr]
    exact hs
  | next h _ ih =>
    intro r hr
    rcases List.mem_cons.mp hr with rfl | hr
    · dsimp only
      omega
    · exact ih h r hr

/-- Each offset up to the line's end is reached by exactly one row. -/
theorem existsUnique (h : Tiles length budget start rows) (place : Nat) (hs : start < place)
    (hp : place ≤ length) : ∃! r, r ∈ rows ∧ r.start < place ∧ place ≤ r.stop := by
  induction h with
  | last h =>
    refine ⟨_, ⟨List.mem_singleton_self _, hs, hp⟩, ?_⟩
    rintro r ⟨hr, -⟩
    exact List.mem_singleton.mp hr
  | @next start rest h hr ih =>
    by_cases hhead : place ≤ start + budget
    · refine ⟨⟨start, start + budget⟩, ⟨by simp, hs, hhead⟩, ?_⟩
      rintro r ⟨hmem, hlt, -⟩
      rcases List.mem_cons.mp hmem with rfl | hmem
      · rfl
      · have := hr.bounds (Nat.le_of_lt h) r hmem
        omega
    · obtain ⟨r, ⟨hmem, hlt, hle⟩, huniq⟩ := ih (by omega)
      refine ⟨r, ⟨by simp [hmem], hlt, hle⟩, ?_⟩
      rintro s ⟨hs, hslt, hsle⟩
      rcases List.mem_cons.mp hs with rfl | hs
      · exact absurd hsle hhead
      · exact huniq s ⟨hs, hslt, hsle⟩

theorem existsUnique_shows (h : Tiles length budget start rows) {i : Nat} (hs : start ≤ i)
    (hi : i < length) : ∃! r, r ∈ rows ∧ r.start ≤ i ∧ i < r.stop := by
  obtain ⟨r, ⟨hr, hlt, hle⟩, huniq⟩ := h.existsUnique (i + 1) (by omega) hi
  refine ⟨r, ⟨hr, by omega, hle⟩, ?_⟩
  rintro s ⟨hs, hslt, hsle⟩
  exact huniq s ⟨hs, by omega, hsle⟩

theorem existsUnique_end (h : Tiles length budget start rows) (hb : 0 < budget)
    (hs : start < length ∨ length = 0) : ∃! r, r ∈ rows ∧ r.stop = length := by
  rcases hs with hs | rfl
  · obtain ⟨r, ⟨hr, hlt, hle⟩, huniq⟩ := h.existsUnique length hs (Nat.le_refl _)
    have hstop := h.bounds (Nat.le_of_lt hs) r hr
    refine ⟨r, ⟨hr, by omega⟩, ?_⟩
    rintro s ⟨hmem, hend⟩
    have := h.start_lt_stop hb hs s hmem
    exact huniq s ⟨hmem, by omega, by omega⟩
  · cases h with
    | last h => exact ⟨_, ⟨List.mem_singleton_self _, rfl⟩, fun s hs => List.mem_singleton.mp hs.1⟩
    | next h _ => omega

theorem apart (h : Tiles length budget start rows) (hb : 0 < budget) (hs : start < length)
    {r s : Row} (hr : r ∈ rows) (hmem : s ∈ rows) (hne : r ≠ s) :
    r.stop ≤ s.start ∨ s.stop ≤ r.start := by
  by_contra hover
  have hrow := h.bounds (Nat.le_of_lt hs) r hr
  have hlt := h.start_lt_stop hb hs
  have hrlt := hlt r hr
  have hslt := hlt s hmem
  obtain ⟨t, -, huniq⟩ := h.existsUnique_shows (i := max r.start s.start) (by omega) (by omega)
  have hrt := huniq r ⟨hr, by omega, by omega⟩
  have hst := huniq s ⟨hmem, by omega, by omega⟩
  exact hne (hrt.trans hst.symm)

theorem nodup (h : Tiles length budget start rows) (hb : 0 < budget) (hs : start ≤ length) :
    rows.Nodup := by
  induction h with
  | last => simp
  | next h hr ih =>
    refine List.nodup_cons.mpr ⟨?_, ih (Nat.le_of_lt h)⟩
    intro hmem
    have := hr.bounds (Nat.le_of_lt h) _ hmem
    dsimp only at this
    omega

theorem exists_first (h : Tiles length budget start rows) :
    ∃ first rest, rows = first :: rest ∧ first.start = start := by
  cases h with
  | last => exact ⟨_, _, rfl, rfl⟩
  | next => exact ⟨_, _, rfl, rfl⟩

/-- What the rows show of a text, one after the other, is the text from where the first starts. -/
theorem flatMap_slice {α : Type} {s : List α} (h : Tiles s.length budget start rows) :
    rows.flatMap (fun r => (s.take r.stop).drop r.start) = s.drop start := by
  generalize hlength : s.length = length at h
  induction h with
  | @last start hle =>
    rw [List.flatMap_singleton, ← hlength, List.take_length]
  | @next start rest hlt hr ih =>
    rw [List.flatMap_cons, ih]
    dsimp only
    rw [List.drop_take, Nat.add_sub_cancel_left, ← List.drop_drop, List.take_append_drop]

end Tiles

end SourceReport.Frame

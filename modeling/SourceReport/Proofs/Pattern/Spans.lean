import SourceReport.Pattern.Matcher

namespace SourceReport.Pattern
open Text

variable {s : List Char}

/-- A cursor stands at its position in a text, between what is before it and what is after. -/
structure Cursor.In (c : Cursor) (s : List Char) : Prop where
  text_eq : c.before.reverse ++ c.after = s
  position_eq : c.position = c.before.length

namespace Cursor
variable {c d : Cursor}

theorem In.position_add (h : c.In s) : c.position + c.after.length = s.length := by
  rw [← h.text_eq, List.length_append, List.length_reverse, h.position_eq]

theorem In.position_le (h : c.In s) : c.position ≤ s.length := by
  have := h.position_add
  omega

theorem in_ofText (s : List Char) : (ofText s).In s := ⟨rfl, rfl⟩

theorem In.next {position : Nat} {before after : List Char} {captures : List (Nat × Capture)}
    {a : Char} (h : In ⟨position, before, a :: after, captures⟩ s)
    (captures' : List (Nat × Capture)) : In ⟨position + 1, a :: before, after, captures'⟩ s := by
  refine ⟨?_, ?_⟩
  · rw [List.reverse_cons, List.append_assoc]
    exact h.text_eq
  · rw [List.length_cons, ← h.position_eq]

theorem In.captures (h : c.In s) (captures : List (Nat × Capture)) :
    In { c with captures } s := ⟨h.text_eq, h.position_eq⟩

theorem In.pass? {p : Char → Bool} (h : c.In s) (hpass : c.pass? p = some d) :
    d.In s ∧ d.position = c.position + 1 := by
  obtain ⟨position, before, after, captures⟩ := c
  cases after with
  | nil => cases hpass
  | cons a after =>
    obtain ⟨-, hd⟩ := Option.ite_none_right_eq_some.mp hpass
    obtain rfl := Option.some.inj hd
    exact ⟨h.next captures, rfl⟩

theorem In.passText? {same : Char → Char → Bool} {text : List Char} (h : c.In s)
    (hpass : passText? same text c = some d) : d.In s ∧ c.position ≤ d.position := by
  induction text generalizing c with
  | nil =>
    obtain rfl := Option.some.inj hpass
    exact ⟨h, Nat.le_refl _⟩
  | cons a text ih =>
    obtain ⟨e, hfirst, hrest⟩ := Option.bind_eq_some_iff.mp hpass
    obtain ⟨he, hnext⟩ := h.pass? hfirst
    obtain ⟨hd, hle⟩ := ih he hrest
    exact ⟨hd, by omega⟩

theorem In.back? {count : Nat} (h : c.In s) (hback : back? count c = some d) : d.In s := by
  induction count generalizing c with
  | zero =>
    obtain rfl := Option.some.inj hback
    exact h
  | succ count ih =>
    obtain ⟨position, before, after, captures⟩ := c
    cases before with
    | nil => cases hback
    | cons a before =>
      have hposition : position = before.length + 1 := h.position_eq
      have htext : (a :: before).reverse ++ after = s := h.text_eq
      rw [List.reverse_cons, List.append_assoc] at htext
      have hlength : position - 1 = before.length := by omega
      exact ih ⟨htext, hlength⟩ hback

theorem In.enter (h : c.In s) (group : Nat) : (c.enter group).In s := h.captures _

theorem leave_eq (c : Cursor) (group : Nat) :
    ∃ captures, c.leave group = { c with captures } := by
  unfold leave
  split
  · exact ⟨_, rfl⟩
  · exact ⟨c.captures, rfl⟩

end Cursor

/-- From a place in the text, a step goes on only at places in the text that are not before it. -/
def Advances (s : List Char) (step : Cursor → Rest → Option Cursor) : Prop :=
  ∀ ⦃c : Cursor⦄ ⦃rest : Rest⦄ ⦃e : Cursor⦄, c.In s → step c rest = some e →
    ∃ d, d.In s ∧ c.position ≤ d.position ∧ rest d = some e

theorem or_eq_some {α : Type} {x y : Option α} {a : α} (h : x.or y = some a) :
    x = some a ∨ y = some a := by
  rw [Option.or_eq_some_iff] at h
  exact h.imp_right And.right

section
variable {step : Cursor → Rest → Option Cursor}

theorem Advances.keep (h : Advances s step) : Advances s fun c rest => (step c some).bind rest := by
  intro c rest e hc hkeep
  obtain ⟨d, hstep, hrest⟩ := Option.bind_eq_some_iff.mp hkeep
  obtain ⟨d', hd, hle, heq⟩ := h hc hstep
  obtain rfl := Option.some.inj heq
  exact ⟨d', hd, hle, hrest⟩

theorem Advances.andThen {other : Cursor → Rest → Option Cursor} (h : Advances s step)
    (hother : Advances s other) : Advances s fun c rest => step c fun d => other d rest := by
  intro c rest e hc hboth
  obtain ⟨d, hd, hle, hrest⟩ := h hc hboth
  obtain ⟨d', hd', hle', hrest'⟩ := hother hd hrest
  exact ⟨d', hd', Nat.le_trans hle hle', hrest'⟩

theorem Advances.repeatStep (h : Advances s step) (greedy : Bool) (fuel least : Nat)
    (most last : Option Nat) : Advances s (repeatStep step greedy fuel least most last) := by
  induction fuel generalizing least most last with
  | zero =>
    intro c rest e hc hmatch
    obtain ⟨-, hrest⟩ := Option.ite_none_right_eq_some.mp hmatch
    exact ⟨c, hc, Nat.le_refl _, hrest⟩
  | succ fuel ih =>
    intro c rest e hc hmatch
    have hagain : ∀ least last, step c (fun d =>
        Pattern.repeatStep step greedy fuel least (most.map (· - 1)) last d rest) = some e →
          ∃ d, d.In s ∧ c.position ≤ d.position ∧ rest d = some e :=
      fun least last hstep => (h.andThen (ih least (most.map (· - 1)) last)) hc hstep
    have hstay : rest c = some e → ∃ d, d.In s ∧ c.position ≤ d.position ∧ rest d = some e :=
      fun hrest => ⟨c, hc, Nat.le_refl _, hrest⟩
    rw [Pattern.repeatStep] at hmatch
    dsimp only at hmatch
    split at hmatch
    · exact hagain _ _ hmatch
    split at hmatch
    · exact hstay hmatch
    split at hmatch
    · exact (or_eq_some hmatch).elim (hagain _ _) hstay
    · exact (or_eq_some hmatch).elim hstay (hagain _ _)

theorem Advances.repeatWith (h : Advances s step) (appetite : Appetite) (times : Bounds) :
    Advances s (repeatWith appetite times step) := by
  intro c rest e hc hmatch
  cases appetite with
  | greedy => exact h.repeatStep _ _ _ _ _ hc hmatch
  | lazy => exact h.repeatStep _ _ _ _ _ hc hmatch
  | possessive => exact (h.keep.repeatStep _ _ _ _ _).keep hc hmatch

end

theorem advances_matchThen (p : Pattern) : Advances s (matchThen p) := by
  induction p with
  | empty =>
    intro c rest e hc hmatch
    exact ⟨c, hc, Nat.le_refl _, hmatch⟩
  | set chars =>
    intro c rest e hc hmatch
    obtain ⟨d, hpass, hrest⟩ := Option.bind_eq_some_iff.mp hmatch
    obtain ⟨hd, hnext⟩ := hc.pass? hpass
    exact ⟨d, hd, by omega, hrest⟩
  | anchor a =>
    intro c rest e hc hmatch
    obtain ⟨-, hrest⟩ := Option.ite_none_right_eq_some.mp hmatch
    exact ⟨c, hc, Nat.le_refl _, hrest⟩
  | cat p q ihp ihq => exact ihp.andThen ihq
  | alt p q ihp ihq =>
    intro c rest e hc hmatch
    rcases or_eq_some hmatch with hmatch | hmatch
    · exact ihp hc hmatch
    · exact ihq hc hmatch
  | repetition p times appetite ih => exact ih.repeatWith appetite times
  | atomic p ih => exact ih.keep
  | look distance p negated ih =>
    intro c rest e hc hmatch
    rw [matchThen] at hmatch
    split at hmatch
    · rename_i d _
      obtain ⟨-, hrest⟩ := Option.ite_none_left_eq_some.mp hmatch
      exact ⟨_, hc.captures d.captures, Nat.le_refl _, hrest⟩
    · obtain ⟨-, hrest⟩ := Option.ite_none_right_eq_some.mp hmatch
      exact ⟨c, hc, Nat.le_refl _, hrest⟩
  | group n p ih =>
    intro c rest e hc hmatch
    obtain ⟨d, hd, hle, hrest⟩ := ih (hc.enter n) hmatch
    obtain ⟨captures, hleave⟩ := d.leave_eq n
    rw [hleave] at hrest
    exact ⟨_, hd.captures captures, hle, hrest⟩
  | reference n ignoreCase ascii =>
    intro c rest e hc hmatch
    obtain ⟨text, -, hmatch⟩ := Option.bind_eq_some_iff.mp hmatch
    obtain ⟨d, hpass, hrest⟩ := Option.bind_eq_some_iff.mp hmatch
    obtain ⟨hd, hle⟩ := hc.passText? hpass
    exact ⟨d, hd, hle, hrest⟩
  | choice n p q ihp ihq =>
    intro c rest e hc hmatch
    rw [matchThen] at hmatch
    split at hmatch
    · exact ihp hc hmatch
    · exact ihq hc hmatch

variable {p : Pattern} {mustAdvance : Bool} {c d : Cursor}

theorem matchAt_some (hc : c.In s) (h : matchAt p mustAdvance c = some d) :
    d.In s ∧ c.position ≤ d.position ∧ (mustAdvance = true → c.position < d.position) := by
  obtain ⟨e, he, hle, hend⟩ := advances_matchThen p hc h
  obtain ⟨hmoves, heq⟩ := Option.ite_none_left_eq_some.mp hend
  obtain rfl := Option.some.inj heq
  refine ⟨he, hle, fun hmust => ?_⟩
  have hne : e.position ≠ c.position := by simpa [hmust] using hmoves
  omega

/-- The first match at a place or after it starts there or after it, and ends after it if it has to
advance. -/
theorem searchFrom_some {start : Nat} (hc : c.In s)
    (h : searchFrom p mustAdvance c.position c.before c.after = some (start, d)) :
    d.In s ∧ c.position ≤ start ∧ start ≤ d.position ∧
      (mustAdvance = true → c.position < d.position) := by
  obtain ⟨position, before, after, captures⟩ := c
  dsimp only at h ⊢
  induction after generalizing position before mustAdvance captures with
  | nil =>
    obtain ⟨e, hmatch, heq⟩ := Option.map_eq_some_iff.mp h
    obtain ⟨rfl, rfl⟩ := Prod.mk.inj heq
    obtain ⟨he, hle, hmust⟩ := matchAt_some (hc.captures []) hmatch
    exact ⟨he, Nat.le_refl _, hle, hmust⟩
  | cons a after ih =>
    rw [searchFrom] at h
    split at h
    · rename_i e hmatch
      obtain ⟨rfl, rfl⟩ := Prod.mk.inj (Option.some.inj h)
      obtain ⟨he, hle, hmust⟩ := matchAt_some (hc.captures []) hmatch
      exact ⟨he, Nat.le_refl _, hle, hmust⟩
    · obtain ⟨hd, hstart, hle, -⟩ := ih _ _ _ (hc.next []) h
      exact ⟨hd, by omega, hle, fun _ => by omega⟩

/-- A match behind another one: it starts no sooner than that ends, and one of them is not empty. -/
def Follows (a b : Nat × Nat) : Prop := a.2 ≤ b.1 ∧ a.1 < b.2

theorem matchesFrom_spans (p : Pattern) (fuel : Nat) (mustAdvance : Bool) (hc : c.In s) :
    (∀ span ∈ matchesFrom p fuel mustAdvance c, c.position ≤ span.1 ∧ span.1 ≤ span.2 ∧
      span.2 ≤ s.length ∧ (mustAdvance = true → c.position < span.2)) ∧
      (matchesFrom p fuel mustAdvance c).Pairwise Follows := by
  induction fuel generalizing mustAdvance c with
  | zero => exact ⟨fun _ h => (List.not_mem_nil h).elim, .nil⟩
  | succ fuel ih =>
    rw [matchesFrom]
    split
    · exact ⟨fun _ h => (List.not_mem_nil h).elim, .nil⟩
    · rename_i start stop hsearch
      obtain ⟨hstop, hstart, hle, hmust⟩ := searchFrom_some hc hsearch
      obtain ⟨hspans, hfollow⟩ := ih (stop.position == start) hstop
      refine ⟨List.forall_mem_cons.mpr ⟨⟨hstart, hle, hstop.position_le, hmust⟩, ?_⟩,
        List.pairwise_cons.mpr ⟨?_, hfollow⟩⟩
      · intro span hspan
        obtain ⟨hfrom, hspanle, hend, -⟩ := hspans span hspan
        exact ⟨by omega, hspanle, hend, fun h => by have := hmust h; omega⟩
      · intro span hspan
        obtain ⟨hfrom, hspanle, -, hadvance⟩ := hspans span hspan
        refine ⟨hfrom, ?_⟩
        -- behind an empty match the next one has to advance, so it ends further on
        by_cases hempty : stop.position = start
        · have := hadvance (beq_iff_eq.mpr hempty)
          omega
        · omega

def room (s : List Char) (mustAdvance : Bool) (c : Cursor) : Nat :=
  2 * (s.length - c.position) + if mustAdvance then 1 else 2

/-- More fuel than there are places for matches changes nothing. -/
theorem matchesFrom_fuel (p : Pattern) (mustAdvance : Bool) (hc : c.In s) {fuel more : Nat}
    (hfuel : room s mustAdvance c ≤ fuel) (hmore : fuel ≤ more) :
    matchesFrom p more mustAdvance c = matchesFrom p fuel mustAdvance c := by
  induction fuel generalizing mustAdvance c more with
  | zero =>
    unfold room at hfuel
    split at hfuel <;> omega
  | succ fuel ih =>
    cases more with
    | zero => omega
    | succ more =>
      rw [matchesFrom, matchesFrom]
      split
      · rfl
      · rename_i start stop hsearch
        obtain ⟨hstop, hstart, hle, hmust⟩ := searchFrom_some hc hsearch
        have hend := hstop.position_le
        have hroom : room s (stop.position == start) stop ≤ fuel := by
          unfold room at hfuel ⊢
          cases mustAdvance <;> by_cases hempty : stop.position = start <;>
            simp [hempty] at hfuel hmust ⊢ <;> omega
        rw [ih _ hstop hroom (Nat.le_of_succ_le_succ hmore)]

/-- The matches in a text lie in it, one behind the other. There are no more of them than looked
for, so however long the search goes on, it finds these. -/
theorem findAll_spans (p : Pattern) (s : List Char) :
    (∀ span ∈ p.findAll s, span.1 ≤ span.2 ∧ span.2 ≤ s.length) ∧
      (p.findAll s).Pairwise Follows ∧
      ∀ more, 2 * s.length + 2 ≤ more → matchesFrom p more false (.ofText s) = p.findAll s := by
  obtain ⟨hspans, hfollow⟩ := matchesFrom_spans p (2 * s.length + 2) false (Cursor.in_ofText s)
  refine ⟨fun span hspan => ?_, hfollow, fun more hmore => ?_⟩
  · obtain ⟨-, hle, hend, -⟩ := hspans span hspan
    exact ⟨hle, hend⟩
  · exact matchesFrom_fuel p false (Cursor.in_ofText s) (Nat.le_refl _) hmore

/-- As many letters as there are, at each place of a text. -/
example : findAll (.repetition (.set ⟨false, false, false, [.code 120]⟩) ⟨0, none⟩ .greedy)
    "axxb".toList = [(0, 0), (1, 3), (3, 3), (4, 4)] := by decide

end SourceReport.Pattern

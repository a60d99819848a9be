import SourceReport.Collector.Stream

namespace SourceReport

namespace Item
variable {α κ : Type}

def value? : Item α κ → Option α
  | value a => some a
  | diagnostic _ => none
  | failure _ => none

def diagnostic? : Item α κ → Option (Diagnostic κ)
  | value _ => none
  | diagnostic d => some d
  | failure d => some d

def values (items : List (Item α κ)) : List α := items.filterMap value?

def diagnostics (items : List (Item α κ)) : List (Diagnostic κ) := items.filterMap diagnostic?

theorem exists_before {items : List (Item α κ)} {k : Nat} {a : α}
    (h : (values items)[k]? = some a) :
    ∃ before rest, items = before ++ .value a :: rest ∧ (values before).length = k := by
  induction items generalizing k with
  | nil => cases h
  | cons item items ih =>
    cases item with
    | value b =>
      cases k with
      | zero =>
        obtain rfl : b = a := Option.some.inj h
        exact ⟨[], items, rfl, rfl⟩
      | succ k =>
        obtain ⟨before, rest, rfl, hcount⟩ := ih (k := k) h
        exact ⟨.value b :: before, rest, rfl, congrArg (· + 1) hcount⟩
    | diagnostic d =>
      obtain ⟨before, rest, rfl, hcount⟩ := ih h
      exact ⟨.diagnostic d :: before, rest, rfl, hcount⟩
    | failure d =>
      obtain ⟨before, rest, rfl, hcount⟩ := ih h
      exact ⟨.failure d :: before, rest, rfl, hcount⟩

end Item

variable {α κ σ : Type} [Kind κ σ] [BEq κ]

namespace Collector

def issueAll (c : Collector κ σ) (ds : List (Diagnostic κ)) : Collector κ σ := ds.foldl issue c

theorem issueAll_eq (c : Collector κ σ) (ds : List (Diagnostic κ)) :
    c.issueAll ds =
      { c with diagnostics := ds.foldl (Diagnostic.combine c.settings) c.diagnostics } := by
  induction ds generalizing c with
  | nil => rfl
  | cons d ds ih => exact ih (c.issue d)

theorem issueAll_new (settings : Option σ) (ds : List (Diagnostic κ)) :
    Collector.issueAll { settings } ds =
      { settings, diagnostics := Diagnostic.combineAll settings ds } := issueAll_eq _ _

end Collector

namespace MixedStream
open Item

def after (s : MixedStream α κ σ) : Nat → MixedStream α κ σ
  | 0 => s
  | k + 1 => s.next.2.after k

theorem after_succ (s : MixedStream α κ σ) (k : Nat) : s.after (k + 1) = (s.after k).next.2 := by
  induction k generalizing s with
  | zero => rfl
  | succ k ih => exact ih s.next.2

theorem after_nil (c : Collector κ σ) (k : Nat) :
    after (α := α) { collector := c, rest := [] } k = { collector := c, rest := [] } := by
  induction k with
  | zero => rfl
  | succ k ih =>
    rw [after, next_nil]
    exact ih

section
variable (c : Collector κ σ) (d : Diagnostic κ) (items : List (Item α κ)) (k : Nat)

theorem next_after_diagnostic :
    (after { collector := c, rest := .diagnostic d :: items } k).next =
      (after { collector := c.issue d, rest := items } k).next := by
  cases k <;> rfl

theorem next_after_failure :
    (after { collector := c, rest := .failure d :: items } k).next =
      (after { collector := c.issue d, rest := items } k).next := by
  cases k <;> rfl

variable {c items k}

/-- The request that reaches a value has collected what stands before it and leaves what stands
behind. -/
theorem next_after_value (before : List (Item α κ)) (a : α) (rest : List (Item α κ))
    (hcount : (values before).length = k) :
    (after { collector := c, rest := before ++ .value a :: rest } k).next =
      (some a, { collector := c.issueAll (diagnostics before), rest }) := by
  induction before generalizing c k with
  | nil =>
    obtain rfl : k = 0 := hcount.symm
    rfl
  | cons item before ih =>
    cases item with
    | value b =>
      cases k with
      | zero => cases hcount
      | succ k => exact ih (Nat.succ.inj hcount)
    | diagnostic d => exact (next_after_diagnostic c d _ k).trans (ih hcount)
    | failure d => exact (next_after_failure c d _ k).trans (ih hcount)

theorem next_after_values (hcount : (values items).length ≤ k) :
    (after { collector := c, rest := items } k).next =
      (none, { collector := c.issueAll (diagnostics items), rest := [] }) := by
  induction items generalizing c k with
  | nil =>
    rw [after_nil, next_nil]
    rfl
  | cons item items ih =>
    cases item with
    | value a =>
      cases k with
      | zero => cases hcount
      | succ k => exact ih (Nat.le_of_succ_le_succ hcount)
    | diagnostic d => exact (next_after_diagnostic c d _ k).trans (ih hcount)
    | failure d => exact (next_after_failure c d _ k).trans (ih hcount)

end

/-- Requests are answered by the values of a stream, one after the other, and by nothing from then
on. After the answer with a value, exactly the diagnostics before the value have been collected and
all items behind it are left; after the first answer with nothing, all diagnostics have been
collected and further requests change nothing. -/
theorem streams_values (settings : Option σ) (items : List (Item α κ)) :
    let stream : MixedStream α κ σ := { collector := { settings }, rest := items }
    (∀ k, (stream.after k).next.1 = (values items)[k]?) ∧
      (∀ k before a rest, items = before ++ .value a :: rest → (values before).length = k →
        stream.after (k + 1) =
          { rest, collector :=
            { settings, diagnostics := Diagnostic.combineAll settings (diagnostics before) } }) ∧
      ∀ k, (values items).length < k → stream.after k =
        { rest := [], collector :=
          { settings, diagnostics := Diagnostic.combineAll settings (diagnostics items) } } := by
  intro stream
  refine ⟨?_, ?_, ?_⟩
  · intro k
    cases hget : (values items)[k]? with
    | none => rw [next_after_values (List.getElem?_eq_none_iff.mp hget)]
    | some a =>
      obtain ⟨before, rest, rfl, hcount⟩ := exists_before hget
      rw [next_after_value before a rest hcount]
  · intro k before a rest hitems hcount
    subst hitems
    rw [after_succ, next_after_value before a rest hcount, Collector.issueAll_new]
  · intro k hcount
    cases k with
    | zero => cases hcount
    | succ k =>
      rw [after_succ, next_after_values (Nat.le_of_lt_succ hcount), Collector.issueAll_new]

/-- A diagnostic and a failure between two values become one entry. The diagnostic behind the second
value joins it with the request after that. -/
theorem streams_values_merged :
    let missing (n : Int) : Diagnostic Severity :=
      .new .error "missing".toList [] { lineNumber := some n }
    let items : List (Item Nat Severity) :=
      [.value 7, .diagnostic (missing 1), .failure (missing 3), .value 8, .diagnostic (missing 4)]
    let stream : MixedStream Nat Severity Unit := { rest := items }
    (values [.value 7, .diagnostic (missing 1), .failure (missing 3)]).length = 1 ∧
      (stream.after 1).next.1 = some 8 ∧
      (stream.after 2).rest = [.diagnostic (missing 4)] ∧
      (stream.after 2).collector.diagnostics.map (·.excerpts.map (·.lineNumber)) =
        [[some 1, some 3]] ∧
      (values items).length < 3 ∧ (stream.after 2).next.1 = none ∧
      (stream.after 3).collector.diagnostics.map (·.excerpts.map (·.lineNumber)) =
        [[some 1, some 3, some 4]] ∧
      stream.after 4 = stream.after 3 := by
  intro missing items stream
  obtain ⟨hanswers, hvalue, hend⟩ := streams_values none items
  have hcount : (values [.value 7, .diagnostic (missing 1), .failure (missing 3)]).length = 1 := rfl
  have hsecond := hvalue 1 _ 8 [.diagnostic (missing 4)] rfl hcount
  have hthird := hend 3 (by decide)
  have hfourth := hend 4 (by decide)
  let lines (s : MixedStream Nat Severity Unit) : List (List (Option Int)) :=
    s.collector.diagnostics.map (·.excerpts.map (·.lineNumber))
  have hmerged := congrArg lines hsecond
  have hall := congrArg lines hthird
  exact ⟨hcount, hanswers 1, congrArg MixedStream.rest hsecond, hmerged, by decide, hanswers 2, hall,
    hfourth.trans hthird.symm⟩

end MixedStream

end SourceReport

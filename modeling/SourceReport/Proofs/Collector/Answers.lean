import Mathlib
import SourceReport.Proofs.Collector.Grouping
import SourceReport.Proofs.Collector.Streaming

namespace SourceReport
open Diagnostic

variable {κ σ : Type} [Kind κ σ] [BEq κ]

namespace Diagnostic

def BlocksAlike (κ : Type) {σ : Type} [Kind κ σ] [BEq κ] (settings : Option σ) : Prop :=
  ∀ k k' : κ, (k == k') = true → Kind.isBlocking k settings = Kind.isBlocking k' settings

def blocks (settings : Option σ) (d : Diagnostic κ) : Bool := Kind.isBlocking d.kind settings

variable {settings : Option σ}

theorem blocks_eq (halike : BlocksAlike κ settings) {old new : Diagnostic κ}
    (h : old.accepts settings new = true) : old.blocks settings = new.blocks settings :=
  halike _ _ (kind_beq_of_couldMerge (accepts_iff.mp h).2)

theorem any_blocks_combine (halike : BlocksAlike κ settings) (collected : List (Diagnostic κ))
    (new : Diagnostic κ) :
    (combine settings collected new).any (·.blocks settings) =
      (collected.any (·.blocks settings) || new.blocks settings) := by
  induction collected with
  | nil => rw [combine, List.any_cons, List.any_nil, Bool.or_false, Bool.false_or]
  | cons head rest ih =>
    cases hhead : head.accepts settings new with
    | true =>
      have hgrown : (head.addExcerpts new.excerpts).blocks settings = head.blocks settings := rfl
      rw [combine_cons_of_accepts hhead, List.any_cons, List.any_cons, hgrown,
        ← blocks_eq halike hhead, Bool.or_right_comm, Bool.or_self]
    | false =>
      rw [combine_cons_of_not_accepts hhead, List.any_cons, List.any_cons, ih, Bool.or_assoc]

theorem excerpts_combine_perm (settings : Option σ) (collected : List (Diagnostic κ))
    (new : Diagnostic κ) :
    ((combine settings collected new).flatMap (·.excerpts)).Perm
      (collected.flatMap (·.excerpts) ++ new.excerpts) := by
  induction collected with
  | nil => rw [combine, List.flatMap_singleton, List.flatMap_nil, List.nil_append]
  | cons head rest ih =>
    rw [List.flatMap_cons, List.append_assoc]
    cases hhead : head.accepts settings new with
    | true =>
      rw [combine_cons_of_accepts hhead, List.flatMap_cons, addExcerpts, List.append_assoc]
      exact List.perm_append_comm.append_left head.excerpts
    | false =>
      rw [combine_cons_of_not_accepts hhead, List.flatMap_cons]
      exact ih.append_left head.excerpts

end Diagnostic

namespace Collector

def excerpts (c : Collector κ σ) : List Excerpt := c.diagnostics.flatMap (·.excerpts)

theorem hasDiagnostics_issue (c : Collector κ σ) (d : Diagnostic κ) :
    (c.issue d).hasDiagnostics = true := by
  rw [hasDiagnostics, Bool.not_eq_true', List.isEmpty_eq_false_iff]
  exact combine_ne_nil c.settings c.diagnostics d

theorem hasErrors_issue {c : Collector κ σ} (halike : BlocksAlike κ c.settings)
    (d : Diagnostic κ) : (c.issue d).hasErrors = (c.hasErrors || d.blocks c.settings) :=
  any_blocks_combine halike c.diagnostics d

theorem excerpts_issue_perm (c : Collector κ σ) (d : Diagnostic κ) :
    (c.issue d).excerpts.Perm (c.excerpts ++ d.excerpts) :=
  excerpts_combine_perm c.settings c.diagnostics d

theorem hasDiagnostics_issueAll (c : Collector κ σ) (ds : List (Diagnostic κ)) :
    (c.issueAll ds).hasDiagnostics = (c.hasDiagnostics || !ds.isEmpty) := by
  induction ds generalizing c with
  | nil => exact (Bool.or_false _).symm
  | cons d ds ih =>
    rw [issueAll, List.foldl_cons, ← issueAll, ih, hasDiagnostics_issue, Bool.true_or,
      List.isEmpty_cons, Bool.not_false, Bool.or_true]

theorem hasErrors_issueAll {c : Collector κ σ} (halike : BlocksAlike κ c.settings)
    (ds : List (Diagnostic κ)) :
    (c.issueAll ds).hasErrors = (c.hasErrors || ds.any (·.blocks c.settings)) := by
  induction ds generalizing c with
  | nil => exact (Bool.or_false _).symm
  | cons d ds ih =>
    have hstep : ((c.issue d).issueAll ds).hasErrors =
        ((c.issue d).hasErrors || ds.any (·.blocks c.settings)) := ih halike
    rw [issueAll, List.foldl_cons, ← issueAll, hstep, hasErrors_issue halike, List.any_cons,
      Bool.or_assoc]

theorem excerpts_issueAll_perm (c : Collector κ σ) (ds : List (Diagnostic κ)) :
    (c.issueAll ds).excerpts.Perm (c.excerpts ++ ds.flatMap (·.excerpts)) := by
  induction ds generalizing c with
  | nil => rw [List.flatMap_nil, List.append_nil, issueAll, List.foldl_nil]
  | cons d ds ih =>
    rw [issueAll, List.foldl_cons, ← issueAll, List.flatMap_cons, ← List.append_assoc]
    exact (ih (c.issue d)).trans ((excerpts_issue_perm c d).append_right _)

/-- Merging hides nothing. A collector has diagnostics if one was issued, it has errors if one that
was issued blocks, and it has as many excerpts as were issued. -/
theorem merging_hides_nothing (settings : Option σ) (halike : BlocksAlike κ settings)
    (ds : List (Diagnostic κ)) :
    let c := issueAll { settings } ds
    (c.hasDiagnostics = true ↔ ds ≠ []) ∧
      (c.hasErrors = true ↔ ∃ d ∈ ds, Kind.isBlocking d.kind settings = true) ∧
      (c.diagnostics.map (·.excerpts.length)).sum = (ds.map (·.excerpts.length)).sum := by
  intro c
  refine ⟨?_, ?_, ?_⟩
  · rw [hasDiagnostics_issueAll, hasDiagnostics, List.isEmpty_nil, Bool.not_true, Bool.false_or,
      Bool.not_eq_true', List.isEmpty_eq_false_iff]
  · rw [hasErrors_issueAll halike, hasErrors, List.any_nil, Bool.false_or, List.any_eq_true]
    rfl
  · rw [← List.length_flatMap, ← List.length_flatMap]
    exact (excerpts_issueAll_perm { settings } ds).length_eq

/-- Of four diagnostics the two that block become one entry, ahead of two that do not. -/
theorem merging_hides_nothing_findings :
    BlocksAlike Finding none ∧
    let c : Collector Finding Unit := issueAll {} findings
    c.diagnostics.length = 3 ∧ c.hasDiagnostics = true ∧ c.hasErrors = true ∧
      (c.diagnostics.map (·.excerpts.length)).sum = 4 := by
  have halike : BlocksAlike Finding none := by
    intro k k' h
    rw [eq_of_beq h]
  obtain ⟨hany, herrors, hcount⟩ := merging_hides_nothing none halike findings
  exact ⟨halike, by decide, hany.mpr (List.cons_ne_nil _ _),
    herrors.mpr ⟨_, List.mem_cons_self, rfl⟩, hcount⟩

end Collector

end SourceReport

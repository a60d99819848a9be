import SourceReport.Text.Order
import Mathlib.Data.List.Perm.Basic

namespace SourceReport.Text

theorem codeLe_iff {a b : List Char} : codeLe a b = true ↔ ¬ b < a := by
  induction a generalizing b with
  | nil => simp [codeLe]
  | cons c as ih =>
    cases b with
    | nil => simp [codeLe]
    | cons d bs =>
      have hchar : ∀ c d : Char, c < d ↔ c.toNat < d.toNat := fun _ _ => Iff.rfl
      rw [codeLe, Bool.or_eq_true, Bool.and_eq_true, decide_eq_true_eq, beq_iff_eq, ih,
        List.cons_lt_cons_iff, hchar]
      by_cases heq : c = d
      · subst heq
        simp
      · have hne : c.toNat ≠ d.toNat := fun h => heq (Char.toNat_inj.mp h)
        have hne' : d ≠ c := fun h => heq h.symm
        simp only [heq, hne', false_and, or_false]
        omega

theorem codeLe_trans (a b c : List Char) (hab : codeLe a b = true) (hbc : codeLe b c = true) :
    codeLe a c = true := by
  rw [codeLe_iff, List.not_lt] at *
  exact List.le_trans hab hbc

theorem codeLe_total (a b : List Char) : (codeLe a b || codeLe b a) = true := by
  rw [Bool.or_eq_true, codeLe_iff, codeLe_iff, List.not_lt, List.not_lt]
  exact List.le_total a b

theorem lt_of_codeLe {a b : List Char} (h : codeLe a b = true) (hne : a ≠ b) : a < b := by
  rw [codeLe_iff, List.not_lt] at h
  by_contra hlt
  rw [List.not_lt] at hlt
  exact hne (List.le_antisymm h hlt)

theorem nodup_eraseDups (texts : List (List Char)) : texts.eraseDups.Nodup := by
  -- on the length, since what is behind the first text is filtered before the next is taken
  induction hn : texts.length using Nat.strongRecOn generalizing texts with
  | ind n ih =>
    cases texts with
    | nil => simp
    | cons t texts =>
      have hle : (texts.filter fun u => !u == t).length ≤ texts.length := List.length_filter_le _ _
      rw [List.length_cons] at hn
      rw [List.eraseDups_cons, List.nodup_cons]
      refine ⟨?_, ih _ (by omega) _ rfl⟩
      rw [List.mem_eraseDups]
      simp

theorem nodup_sortedSet (texts : List (List Char)) : (sortedSet texts).Nodup :=
  (List.mergeSort_perm _ _).nodup_iff.mpr (nodup_eraseDups texts)

theorem pairwise_sortedSet (texts : List (List Char)) : (sortedSet texts).Pairwise (· < ·) := by
  have hsorted : (sortedSet texts).Pairwise fun a b => codeLe a b = true :=
    List.pairwise_mergeSort codeLe_trans codeLe_total _
  exact (hsorted.and (nodup_sortedSet texts)).imp fun h => lt_of_codeLe h.1 h.2

/-- There is one way to put the members in order. -/
theorem sortedSet_eq {texts sorted : List (List Char)} (hsorted : sorted.Pairwise (· < ·))
    (h : ∀ t, t ∈ sorted ↔ t ∈ texts) : sortedSet texts = sorted := by
  have hmem : ∀ t, t ∈ sortedSet texts ↔ t ∈ sorted := by
    intro t
    rw [mem_sortedSet, h]
  have hnodup : sorted.Nodup := by
    apply hsorted.imp
    intro t u htu heq
    exact List.lt_irrefl u (heq ▸ htu)
  have hperm : (sortedSet texts).Perm sorted :=
    (List.perm_ext_iff_of_nodup (nodup_sortedSet texts) hnodup).mpr hmem
  apply hperm.eq_of_pairwise _ (pairwise_sortedSet texts) hsorted
  intro t u _ _ htu hut
  exact absurd hut (List.lt_asymm htu)

theorem sortedSet_congr {a b : List (List Char)} (h : ∀ t, t ∈ a ↔ t ∈ b) :
    sortedSet a = sortedSet b := by
  apply sortedSet_eq (pairwise_sortedSet b)
  intro t
  rw [mem_sortedSet, h]

end SourceReport.Text

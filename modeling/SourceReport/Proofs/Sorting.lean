namespace SourceReport

/-- Entries that may stand in any order keep the one they have. -/
theorem filter_mergeSort {α : Type} {le : α → α → Bool}
    (trans : ∀ a b c, le a b = true → le b c = true → le a c = true)
    (total : ∀ a b, (le a b || le b a) = true) {p : α → Bool}
    (h : ∀ a b, p a = true → p b = true → le a b = true) (xs : List α) :
    (xs.mergeSort le).filter p = xs.filter p := by
  have hties : (xs.filter p).Pairwise fun a b => le a b = true := by
    rw [List.pairwise_filter]
    exact List.pairwise_of_forall fun a b ha hb => h a b ha hb
  have hsub := (List.sublist_mergeSort trans total hties List.filter_sublist).filter p
  rw [List.filter_filter] at hsub
  simp only [Bool.and_self] at hsub
  exact (hsub.eq_of_length ((List.mergeSort_perm xs le).filter p).length_eq.symm).symm

/-- Lists in order of a key that have the same entries with each key, in the same order, are the
same. -/
theorem eq_of_pairwise_of_filter_eq {α : Type} {key : α → Int} {xs ys : List α}
    (hx : xs.Pairwise fun a b => key a ≤ key b) (hy : ys.Pairwise fun a b => key a ≤ key b)
    (h : ∀ v, xs.filter (fun a => key a == v) = ys.filter fun a => key a == v) : xs = ys := by
  induction xs generalizing ys with
  | nil =>
    cases ys with
    | nil => rfl
    | cons b ys => simpa using h (key b)
  | cons a xs ih =>
    cases ys with
    | nil => simpa using h (key a)
    | cons b ys =>
      obtain ⟨hax, hxs⟩ := List.pairwise_cons.mp hx
      obtain ⟨hby, hys⟩ := List.pairwise_cons.mp hy
      have hb : b ∈ a :: xs := by
        have hmem : b ∈ (b :: ys).filter fun c => key c == key b := by simp
        rw [← h] at hmem
        exact (List.mem_filter.mp hmem).1
      have ha : a ∈ b :: ys := by
        have hmem : a ∈ (a :: xs).filter fun c => key c == key a := by simp
        rw [h] at hmem
        exact (List.mem_filter.mp hmem).1
      have hab : key a ≤ key b := by
        rcases List.mem_cons.mp hb with rfl | hb
        · exact Int.le_refl _
        · exact hax b hb
      have hba : key b ≤ key a := by
        rcases List.mem_cons.mp ha with rfl | ha
        · exact Int.le_refl _
        · exact hby a ha
      have hkey : key b = key a := Int.le_antisymm hba hab
      have hhead := h (key a)
      simp only [List.filter_cons, hkey, beq_self_eq_true, if_true, List.cons.injEq] at hhead
      obtain ⟨rfl, -⟩ := hhead
      congr 1
      apply ih hxs hys
      intro v
      have hv := h v
      simp only [List.filter_cons] at hv
      split at hv
      · exact (List.cons.inj hv).2
      · exact hv

section Key
variable {α κ : Type} [LE κ] [DecidableLE κ] [Std.IsLinearPreorder κ]

theorem key_trans (key : α → κ) (a b c : α) (hab : decide (key a ≤ key b) = true)
    (hbc : decide (key b ≤ key c) = true) : decide (key a ≤ key c) = true :=
  decide_eq_true (Std.le_trans (of_decide_eq_true hab) (of_decide_eq_true hbc))

theorem key_total (key : α → κ) (a b : α) :
    (decide (key a ≤ key b) || decide (key b ≤ key a)) = true := by
  rw [Bool.or_eq_true, decide_eq_true_eq, decide_eq_true_eq]
  exact Std.le_total

theorem pairwise_mergeSort_key (key : α → κ) (xs : List α) :
    (xs.mergeSort fun a b => decide (key a ≤ key b)).Pairwise fun a b => key a ≤ key b :=
  (List.pairwise_mergeSort (key_trans key) (key_total key) xs).imp of_decide_eq_true

theorem filter_mergeSort_key [BEq κ] [LawfulBEq κ] (key : α → κ) (xs : List α) (v : κ) :
    (xs.mergeSort fun a b => decide (key a ≤ key b)).filter (key · == v) =
      xs.filter (key · == v) := by
  apply filter_mergeSort (key_trans key) (key_total key)
  intro a b ha hb
  rw [eq_of_beq ha, eq_of_beq hb]
  exact decide_eq_true (Std.le_refl v)

end Key

end SourceReport

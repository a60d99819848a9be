import SourceReport.Diagnostic

namespace SourceReport

theorem Excerpt.beq_iff {a b : Excerpt} :
    (a == b) = true ↔ a.source = b.source ∧ a.lineNumber = b.lineNumber ∧
      a.firstLineOffset = b.firstLineOffset ∧ a.text.content = b.text.content ∧
      a.highlights = b.highlights := by
  change (a.source == b.source && a.lineNumber == b.lineNumber &&
    a.firstLineOffset == b.firstLineOffset && a.text == b.text &&
    a.highlights == b.highlights) = true ↔ _
  simp only [Bool.and_eq_true, beq_iff_eq, Text.Passage.beq_iff, and_assoc]

instance : EquivBEq Excerpt where
  rfl := Excerpt.beq_iff.mpr ⟨rfl, rfl, rfl, rfl, rfl⟩
  symm h := by
    obtain ⟨h1, h2, h3, h4, h5⟩ := Excerpt.beq_iff.mp h
    exact Excerpt.beq_iff.mpr ⟨h1.symm, h2.symm, h3.symm, h4.symm, h5.symm⟩
  trans h k := by
    obtain ⟨h1, h2, h3, h4, h5⟩ := Excerpt.beq_iff.mp h
    obtain ⟨k1, k2, k3, k4, k5⟩ := Excerpt.beq_iff.mp k
    exact Excerpt.beq_iff.mpr
      ⟨h1.trans k1, h2.trans k2, h3.trans k3, h4.trans k4, h5.trans k5⟩

instance instEquivBEqList {α : Type} [BEq α] [EquivBEq α] : EquivBEq (List α) where
  symm := by
    intro xs ys h
    induction xs generalizing ys with
    | nil => cases ys with
      | nil => rfl
      | cons y ys => cases h
    | cons x xs ih => cases ys with
      | nil => cases h
      | cons y ys =>
        rw [List.cons_beq_cons, Bool.and_eq_true] at h ⊢
        exact ⟨BEq.symm h.1, ih h.2⟩
  trans := by
    intro xs ys zs h k
    induction xs generalizing ys zs with
    | nil => cases ys with
      | nil => exact k
      | cons y ys => cases h
    | cons x xs ih => cases ys with
      | nil => cases h
      | cons y ys => cases zs with
        | nil => cases k
        | cons z zs =>
          rw [List.cons_beq_cons, Bool.and_eq_true] at h k ⊢
          exact ⟨BEq.trans h.1 k.1, ih h.2 k.2⟩

namespace Diagnostic
variable {κ : Type} [BEq κ]

theorem same_iff {a b : Diagnostic κ} :
    same a b = true ↔ ((a.kind == b.kind) = true ∧ a.title = b.title ∧ a.details = b.details ∧
      a.suggestions = b.suggestions ∧ a.version = b.version ∧
      (a.excerpts == b.excerpts) = true ∧ sameAll a.causes b.causes = true) := by
  cases a
  cases b
  simp only [same, Bool.and_eq_true, beq_iff_eq, and_assoc]

theorem sameAll_cons {a b : Diagnostic κ} {as bs : List (Diagnostic κ)} :
    sameAll (a :: as) (b :: bs) = true ↔ same a b = true ∧ sameAll as bs = true := by
  rw [sameAll, Bool.and_eq_true]

mutual

theorem same_refl [ReflBEq κ] : ∀ d : Diagnostic κ, same d d = true
  | ⟨_, _, _, _, _, _, causes⟩ =>
    same_iff.mpr ⟨BEq.rfl, rfl, rfl, rfl, rfl, BEq.rfl, sameAll_refl causes⟩

theorem sameAll_refl [ReflBEq κ] : ∀ ds : List (Diagnostic κ), sameAll ds ds = true
  | [] => by rw [sameAll]
  | d :: ds => sameAll_cons.mpr ⟨same_refl d, sameAll_refl ds⟩

end

mutual

theorem same_symm [EquivBEq κ] : ∀ a b : Diagnostic κ, same a b = true → same b a = true
  | ⟨_, _, _, _, _, _, causes⟩, b, h => by
    obtain ⟨hk, ht, hd, hs, hv, he, hc⟩ := same_iff.mp h
    exact same_iff.mpr ⟨BEq.symm hk, ht.symm, hd.symm, hs.symm, hv.symm, BEq.symm he,
      sameAll_symm causes b.causes hc⟩

theorem sameAll_symm [EquivBEq κ] :
    ∀ as bs : List (Diagnostic κ), sameAll as bs = true → sameAll bs as = true
  | [], [], h => h
  | [], _ :: _, h => by cases h
  | _ :: _, [], h => by cases h
  | a :: as, b :: bs, h =>
    have h' := sameAll_cons.mp h
    sameAll_cons.mpr ⟨same_symm a b h'.1, sameAll_symm as bs h'.2⟩

end

mutual

theorem same_trans [EquivBEq κ] :
    ∀ a b c : Diagnostic κ, same a b = true → same b c = true → same a c = true
  | ⟨_, _, _, _, _, _, causes⟩, b, c, h, k => by
    obtain ⟨hk, ht, hd, hs, hv, he, hc⟩ := same_iff.mp h
    obtain ⟨kk, kt, kd, ks, kv, ke, kc⟩ := same_iff.mp k
    exact same_iff.mpr ⟨BEq.trans hk kk, ht.trans kt, hd.trans kd, hs.trans ks, hv.trans kv,
      BEq.trans he ke, sameAll_trans causes b.causes c.causes hc kc⟩

theorem sameAll_trans [EquivBEq κ] :
    ∀ as bs cs : List (Diagnostic κ), sameAll as bs = true → sameAll bs cs = true →
      sameAll as cs = true
  | [], [], _, _, k => k
  | [], _ :: _, _, h, _ => by cases h
  | _ :: _, [], _, h, _ => by cases h
  | _ :: _, _ :: _, [], _, k => by cases k
  | a :: as, b :: bs, c :: cs, h, k =>
    have h' := sameAll_cons.mp h
    have k' := sameAll_cons.mp k
    sameAll_cons.mpr
      ⟨same_trans a b c h'.1 k'.1, sameAll_trans as bs cs h'.2 k'.2⟩

end

instance [EquivBEq κ] : EquivBEq (Diagnostic κ) where
  rfl := same_refl _
  symm := same_symm _ _
  trans := same_trans _ _ _

/-- Merging compares all but the excerpts. -/
theorem couldMerge_eq_same (a b : Diagnostic κ) :
    a.couldMerge b = same { a with excerpts := [] } { b with excerpts := [] } := by
  rw [couldMerge, same, show (([] : List Excerpt) == []) = true from rfl, Bool.and_true]

theorem kind_beq_of_couldMerge {a b : Diagnostic κ} (h : a.couldMerge b = true) :
    (a.kind == b.kind) = true := by
  rw [couldMerge_eq_same] at h
  exact (same_iff.mp h).1

variable [EquivBEq κ]

theorem couldMerge_refl (d : Diagnostic κ) : d.couldMerge d = true := by
  rw [couldMerge_eq_same]
  exact same_refl _

theorem couldMerge_symm {a b : Diagnostic κ} (h : a.couldMerge b = true) :
    b.couldMerge a = true := by
  rw [couldMerge_eq_same] at h ⊢
  exact same_symm _ _ h

theorem couldMerge_trans {a b c : Diagnostic κ} (h : a.couldMerge b = true)
    (k : b.couldMerge c = true) : a.couldMerge c = true := by
  rw [couldMerge_eq_same] at h k ⊢
  exact same_trans _ _ _ h k

end Diagnostic

end SourceReport

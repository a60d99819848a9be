import SourceReport.Proofs.Collector.Grouping
import SourceReport.Proofs.Collector.Streaming

namespace SourceReport.Diagnostic
variable {κ σ : Type} [Kind κ σ] [BEq κ] {settings : Option σ}

@[simp] theorem addExcerpts_accepts (a b : Diagnostic κ) (excerpts : List Excerpt) :
    (a.addExcerpts excerpts).accepts settings b = a.accepts settings b := rfl

@[simp] theorem accepts_addExcerpts (a b : Diagnostic κ) (excerpts : List Excerpt) :
    a.accepts settings (b.addExcerpts excerpts) = a.accepts settings b := rfl

theorem any_accepts_combine {collected : List (Diagnostic κ)} {d : Diagnostic κ}
    (h : collected.any (·.accepts settings d) = true) (new : Diagnostic κ) :
    (combine settings collected new).any (·.accepts settings d) = true := by
  induction collected with
  | nil => cases h
  | cons head rest ih =>
    rw [List.any_cons, Bool.or_eq_true] at h
    cases hhead : head.accepts settings new with
    | true =>
      rw [combine_cons_of_accepts hhead, List.any_cons, addExcerpts_accepts, Bool.or_eq_true]
      exact h
    | false =>
      rw [combine_cons_of_not_accepts hhead, List.any_cons, Bool.or_eq_true]
      exact h.imp_right ih

theorem any_accepts_combine_self [EquivBEq κ] {d : Diagnostic κ} (h : d.ignored settings = false)
    (collected : List (Diagnostic κ)) :
    (combine settings collected d).any (·.accepts settings d) = true := by
  induction collected with
  | nil => rw [combine, List.any_cons, accepts_self h, Bool.true_or]
  | cons head rest ih =>
    cases hhead : head.accepts settings d with
    | true => rw [combine_cons_of_accepts hhead, List.any_cons, addExcerpts_accepts, hhead,
        Bool.true_or]
    | false => rw [combine_cons_of_not_accepts hhead, List.any_cons, ih, Bool.or_true]

theorem not_accepts_combine {collected : List (Diagnostic κ)} {d new : Diagnostic κ}
    (h : ∀ entry ∈ collected, d.accepts settings entry = false)
    (hnew : d.accepts settings new = false) :
    ∀ entry ∈ combine settings collected new, d.accepts settings entry = false := by
  induction collected with
  | nil => exact List.forall_mem_singleton.mpr hnew
  | cons head rest ih =>
    rw [List.forall_mem_cons] at h
    cases hhead : head.accepts settings new with
    | true =>
      rw [combine_cons_of_accepts hhead]
      exact List.forall_mem_cons.mpr h
    | false =>
      rw [combine_cons_of_not_accepts hhead]
      exact List.forall_mem_cons.mpr ⟨h.1, ih h.2⟩

/-- No entry accepts one behind it. -/
def Apart (settings : Option σ) (entries : List (Diagnostic κ)) : Prop :=
  entries.Pairwise fun a b => a.accepts settings b = false

theorem Apart.combine {entries : List (Diagnostic κ)} (h : Apart settings entries)
    (new : Diagnostic κ) : Apart settings (combine settings entries new) := by
  induction entries with
  | nil => exact List.pairwise_singleton _ _
  | cons head rest ih =>
    obtain ⟨hhead, hrest⟩ := List.pairwise_cons.mp h
    cases hnew : head.accepts settings new with
    | true =>
      rw [combine_cons_of_accepts hnew]
      exact List.pairwise_cons.mpr ⟨hhead, hrest⟩
    | false =>
      rw [combine_cons_of_not_accepts hnew]
      exact List.pairwise_cons.mpr ⟨not_accepts_combine hhead hnew, ih hrest⟩

theorem apart_combineAll (ds : List (Diagnostic κ)) : Apart settings (combineAll settings ds) := by
  induction ds using List.reverseRecOn with
  | nil => exact List.Pairwise.nil
  | append_singleton ds d ih =>
    rw [combineAll_append_singleton]
    exact ih.combine d

variable [EquivBEq κ]

theorem accepts_eq_of_accepts (halike : IgnoresAlike κ settings) {a b : Diagnostic κ}
    (h : a.accepts settings b = true) (c : Diagnostic κ) :
    c.accepts settings a = c.accepts settings b := by
  rw [Bool.eq_iff_iff]
  constructor
  · exact fun hc => accepts_trans hc h
  · exact fun hc => accepts_trans hc (accepts_symm halike h)

/-- A diagnostic that has taken in another goes where the two would have gone in turn. -/
theorem combine_addExcerpts (halike : IgnoresAlike κ settings) {old new : Diagnostic κ}
    (h : old.accepts settings new = true) (collected : List (Diagnostic κ)) :
    combine settings collected (old.addExcerpts new.excerpts) =
      combine settings (combine settings collected old) new := by
  induction collected with
  | nil => exact (combine_cons_of_accepts h []).symm
  | cons head rest ih =>
    have hgrown : head.accepts settings (old.addExcerpts new.excerpts) =
        head.accepts settings old := accepts_addExcerpts head old new.excerpts
    have hnew := accepts_eq_of_accepts halike h head
    cases hold : head.accepts settings old with
    | true =>
      rw [hold] at hgrown hnew
      have hagain := (addExcerpts_accepts head new old.excerpts).trans hnew.symm
      rw [combine_cons_of_accepts hgrown, combine_cons_of_accepts hold,
        combine_cons_of_accepts hagain]
      simp only [addExcerpts, List.append_assoc]
    | false =>
      rw [hold] at hgrown hnew
      rw [combine_cons_of_not_accepts hgrown, combine_cons_of_not_accepts hold,
        combine_cons_of_not_accepts hnew.symm, ih]

/-- Two diagnostics that do not go together may change places, if an entry takes the first in. -/
theorem combine_comm (halike : IgnoresAlike κ settings) {collected : List (Diagnostic κ)}
    {a b : Diagnostic κ} (ha : collected.any (·.accepts settings a) = true)
    (hab : a.accepts settings b = false) :
    combine settings (combine settings collected a) b =
      combine settings (combine settings collected b) a := by
  induction collected with
  | nil => cases ha
  | cons head rest ih =>
    cases hheada : head.accepts settings a with
    | true =>
      have hheadb : head.accepts settings b = false := by
        rw [Bool.eq_false_iff]
        intro hheadb
        rw [accepts_trans (accepts_symm halike hheada) hheadb] at hab
        cases hab
      have hgrown := (addExcerpts_accepts head b a.excerpts).trans hheadb
      rw [combine_cons_of_accepts hheada, combine_cons_of_not_accepts hgrown,
        combine_cons_of_not_accepts hheadb, combine_cons_of_accepts hheada]
    | false =>
      rw [List.any_cons, hheada, Bool.false_or] at ha
      cases hheadb : head.accepts settings b with
      | true =>
        have hgrown := (addExcerpts_accepts head a b.excerpts).trans hheada
        rw [combine_cons_of_not_accepts hheada, combine_cons_of_accepts hheadb,
          combine_cons_of_accepts hheadb, combine_cons_of_not_accepts hgrown]
      | false =>
        rw [combine_cons_of_not_accepts hheada, combine_cons_of_not_accepts hheadb,
          combine_cons_of_not_accepts hheadb, combine_cons_of_not_accepts hheada, ih ha]

theorem foldl_combine_comm (halike : IgnoresAlike κ settings) {collected : List (Diagnostic κ)}
    {a : Diagnostic κ} (ha : collected.any (·.accepts settings a) = true)
    {rest : List (Diagnostic κ)} (hrest : ∀ b ∈ rest, a.accepts settings b = false) :
    rest.foldl (combine settings) (combine settings collected a) =
      combine settings (rest.foldl (combine settings) collected) a := by
  induction rest generalizing collected with
  | nil => rfl
  | cons b rest ih =>
    obtain ⟨hb, hrest⟩ := List.forall_mem_cons.mp hrest
    rw [List.foldl_cons, List.foldl_cons, combine_comm halike ha hb,
      ih (any_accepts_combine ha b) hrest]

theorem foldl_combine_combine (halike : IgnoresAlike κ settings)
    {entries : List (Diagnostic κ)} (hapart : Apart settings entries) (d : Diagnostic κ)
    (collected : List (Diagnostic κ)) :
    (combine settings entries d).foldl (combine settings) collected =
      combine settings (entries.foldl (combine settings) collected) d := by
  induction entries generalizing collected with
  | nil => rfl
  | cons head rest ih =>
    obtain ⟨hhead, hrest⟩ := List.pairwise_cons.mp hapart
    cases hd : head.accepts settings d with
    | true =>
      -- the diagnostic goes past all entries behind its own, to the slot that its own went to
      have hslot : (combine settings collected head).any (·.accepts settings d) = true := by
        have htaken := any_accepts_combine_self (accepts_iff.mp hd).1 collected
        simpa only [accepts_eq_of_accepts halike hd] using htaken
      have hpast : ∀ b ∈ rest, d.accepts settings b = false := by
        intro b hb
        rw [Bool.eq_false_iff]
        intro hdb
        have hheadb := accepts_trans hd hdb
        rw [hhead b hb] at hheadb
        cases hheadb
      rw [combine_cons_of_accepts hd, List.foldl_cons, List.foldl_cons,
        combine_addExcerpts halike hd, foldl_combine_comm halike hslot hpast]
    | false => rw [combine_cons_of_not_accepts hd, List.foldl_cons, List.foldl_cons, ih hrest]

/-- Entries leave what the diagnostics they were made of would have left. -/
theorem foldl_combine_combineAll (halike : IgnoresAlike κ settings)
    (collected ds : List (Diagnostic κ)) :
    (combineAll settings ds).foldl (combine settings) collected =
      ds.foldl (combine settings) collected := by
  -- from the back, as what was issued last is collected into the entries of all before it
  induction ds using List.reverseRecOn with
  | nil => rfl
  | append_singleton ds d ih =>
    rw [combineAll_append_singleton, foldl_combine_combine halike (apart_combineAll ds), ih,
      List.foldl_append, List.foldl_cons, List.foldl_nil]

theorem foldl_combine_flatMap (halike : IgnoresAlike κ settings) (collected : List (Diagnostic κ))
    (files : List (List (Diagnostic κ))) :
    (files.flatMap (combineAll settings)).foldl (combine settings) collected =
      files.flatten.foldl (combine settings) collected := by
  induction files generalizing collected with
  | nil => rfl
  | cons file files ih =>
    rw [List.flatMap_cons, List.foldl_append, foldl_combine_combineAll halike, ih,
      List.flatten_cons, List.foldl_append]

/-- To collect the entries of two collectors is to collect what was issued to the first and then
what was issued to the second; so entries are their own entries, and collectors of single files
give together the report of one collector for all files. -/
theorem combineAll_combineAll (settings : Option σ) (halike : IgnoresAlike κ settings) :
    (∀ xs ys : List (Diagnostic κ),
      combineAll settings (combineAll settings xs ++ combineAll settings ys) =
        combineAll settings (xs ++ ys)) ∧
    (∀ xs : List (Diagnostic κ),
      combineAll settings (combineAll settings xs) = combineAll settings xs) ∧
    ∀ (files : List (List (Diagnostic κ))) (options : Options),
      let ofFile (file : List (Diagnostic κ)) := Collector.issueAll { settings } file
      (Collector.issueAll { settings } (files.flatMap fun file =>
          (ofFile file).diagnostics)).report options =
        (Collector.issueAll { settings } files.flatten).report options := by
  refine ⟨?_, ?_, ?_⟩
  · intro xs ys
    rw [combineAll, List.foldl_append, foldl_combine_combineAll halike [],
      foldl_combine_combineAll halike, ← List.foldl_append, ← combineAll]
  · intro xs
    exact foldl_combine_combineAll halike [] xs
  · intro files options
    simp only [Collector.issueAll_new]
    rw [combineAll, foldl_combine_flatMap halike, ← combineAll]

def moreFindings : List (Diagnostic Finding) :=
  [new .hint "long line".toList [] { lineNumber := some 5 },
    new .fault "blank".toList [] { lineNumber := some 6 },
    new .fault "tab".toList [] { lineNumber := some 7 }]

theorem combineAll_combineAll_findings :
    IgnoresAlike Finding none ∧
    combineAll none (combineAll none findings ++ combineAll none moreFindings) =
      combineAll none (findings ++ moreFindings) ∧
    (combineAll none (findings ++ moreFindings)).map
        (fun d => (d.kind, d.excerpts.map (·.lineNumber))) =
      [(.fault, [some 1, some 3, some 7]), (.hint, [some 2]), (.hint, [some 4]), (.hint, [some 5]),
        (.fault, [some 6])] := by
  have halike : IgnoresAlike Finding none := by
    intro k k' h
    rw [eq_of_beq h]
  exact ⟨halike, (combineAll_combineAll none halike).1 findings moreFindings, by decide⟩

end SourceReport.Diagnostic

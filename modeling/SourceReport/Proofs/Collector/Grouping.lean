import SourceReport.Collector
import SourceReport.Proofs.Diagnostic.Equality
import Mathlib.Data.List.Induction
import Mathlib.Data.List.Pairwise
import Mathlib.Logic.ExistsUnique

namespace SourceReport.Diagnostic
variable {κ σ : Type} [Kind κ σ] [BEq κ]

theorem combine_cons_of_accepts {settings : Option σ} {head new : Diagnostic κ}
    (h : head.accepts settings new = true) (rest : List (Diagnostic κ)) :
    combine settings (head :: rest) new = head.addExcerpts new.excerpts :: rest :=
  if_pos h

theorem combine_cons_of_not_accepts {settings : Option σ} {head new : Diagnostic κ}
    (h : head.accepts settings new = false) (rest : List (Diagnostic κ)) :
    combine settings (head :: rest) new = head :: combine settings rest new :=
  if_neg (Bool.eq_false_iff.mp h)

theorem combineAll_append_singleton (settings : Option σ) (ds : List (Diagnostic κ))
    (d : Diagnostic κ) :
    combineAll settings (ds ++ [d]) = combine settings (combineAll settings ds) d := by
  rw [combineAll, List.foldl_append, ← combineAll, List.foldl_cons, List.foldl_nil]

/-- A new diagnostic is appended, or its excerpts are, to the first that accepts it. -/
theorem combine_cases (settings : Option σ) (collected : List (Diagnostic κ))
    (new : Diagnostic κ) :
    ((∀ old ∈ collected, old.accepts settings new = false) ∧
      combine settings collected new = collected ++ [new]) ∨
    ∃ (i : Nat) (old : Diagnostic κ), collected[i]? = some old ∧
      old.accepts settings new = true ∧
      (∀ before ∈ collected.take i, before.accepts settings new = false) ∧
      combine settings collected new = collected.set i (old.addExcerpts new.excerpts) := by
  induction collected with
  | nil => exact .inl ⟨fun _ h => (List.not_mem_nil h).elim, rfl⟩
  | cons head rest ih =>
    cases hhead : head.accepts settings new with
    | true =>
      refine .inr ⟨0, head, rfl, hhead, fun _ h => (List.not_mem_nil h).elim, ?_⟩
      rw [combine_cons_of_accepts hhead, List.set_cons_zero]
    | false =>
      have hstep := combine_cons_of_not_accepts hhead rest
      obtain ⟨hnone, hrest⟩ | ⟨i, old, hi, hold, hbefore, hrest⟩ := ih
      · refine .inl ⟨?_, ?_⟩
        · intro old hmem
          obtain rfl | hmem := List.mem_cons.mp hmem
          · exact hhead
          · exact hnone old hmem
        · rw [hstep, hrest, List.cons_append]
      · refine .inr ⟨i + 1, old, by simpa using hi, hold, ?_, ?_⟩
        · intro before hmem
          rw [List.take_succ_cons] at hmem
          obtain rfl | hmem := List.mem_cons.mp hmem
          · exact hhead
          · exact hbefore before hmem
        · rw [hstep, hrest, List.set_cons_succ]

def IgnoresAlike (κ : Type) {σ : Type} [Kind κ σ] [BEq κ] (settings : Option σ) : Prop :=
  ∀ k k' : κ, (k == k') = true →
    Kind.ignoredForMerge k settings = Kind.ignoredForMerge k' settings

def ignored (settings : Option σ) (d : Diagnostic κ) : Bool :=
  Kind.ignoredForMerge d.kind settings

theorem accepts_iff {settings : Option σ} {a b : Diagnostic κ} :
    a.accepts settings b = true ↔ a.ignored settings = false ∧ a.couldMerge b = true := by
  rw [accepts, ignored, Bool.and_eq_true, Bool.not_eq_true']

variable {settings : Option σ}

theorem ignored_eq (halike : IgnoresAlike κ settings) {a b : Diagnostic κ}
    (h : a.couldMerge b = true) : a.ignored settings = b.ignored settings :=
  halike _ _ (kind_beq_of_couldMerge h)

/-- The diagnostics that nothing issued before accepts, with the places they were issued at. -/
def leads (settings : Option σ) (ds : List (Diagnostic κ)) : List (Diagnostic κ × Nat) :=
  ds.zipIdx.filter fun p => !(ds.take p.2).any (·.accepts settings p.1)

/-- A diagnostic with the excerpts of all of `ds` that it accepts, unless it is ignored. -/
def gathered (settings : Option σ) (ds : List (Diagnostic κ)) (lead : Diagnostic κ) :
    Diagnostic κ :=
  if lead.ignored settings then lead
  else { lead with excerpts := (ds.filter (lead.accepts settings ·)).flatMap (·.excerpts) }

theorem mem_leads {ds : List (Diagnostic κ)} {d : Diagnostic κ} {i : Nat} :
    (d, i) ∈ leads settings ds ↔
      ds[i]? = some d ∧ ∀ before ∈ ds.take i, before.accepts settings d = false := by
  rw [leads, List.mem_filter, List.mem_zipIdx_iff_getElem?]
  simp only [Bool.not_eq_true', List.any_eq_false, Bool.not_eq_true]

theorem leads_append (ds : List (Diagnostic κ)) (d : Diagnostic κ) :
    leads settings (ds ++ [d]) = leads settings ds ++
      if ds.any (·.accepts settings d) then [] else [(d, ds.length)] := by
  have hold : ∀ p ∈ ds.zipIdx, (!((ds ++ [d]).take p.2).any (·.accepts settings p.1)) =
      !(ds.take p.2).any (·.accepts settings p.1) := by
    intro p hp
    have hlt : p.2 < ds.length := by simpa using List.snd_lt_of_mem_zipIdx hp
    rw [List.take_append_of_le_length (Nat.le_of_lt hlt)]
  have hnew : ([d].zipIdx ds.length).filter
      (fun p => !((ds ++ [d]).take p.2).any (·.accepts settings p.1)) =
        if ds.any (·.accepts settings d) then [] else [(d, ds.length)] := by
    rw [List.zipIdx_singleton, List.filter_cons, List.filter_nil]
    dsimp only
    rw [List.take_left]
    cases ds.any (·.accepts settings d) <;> rfl
  rw [leads, List.zipIdx_append, List.filter_append, List.filter_congr hold, Nat.zero_add, hnew,
    leads]

theorem leads_pairwise (ds : List (Diagnostic κ)) :
    (leads settings ds).Pairwise (·.2 < ·.2) := by
  have hall : (ds.zipIdx.map Prod.snd).Pairwise (· < ·) := by
    rw [List.zipIdx_map_snd]
    exact List.pairwise_lt_range'
  exact (List.pairwise_map.mp hall).sublist List.filter_sublist

variable [EquivBEq κ]

theorem accepts_self {d : Diagnostic κ} (h : d.ignored settings = false) :
    d.accepts settings d = true :=
  accepts_iff.mpr ⟨h, couldMerge_refl d⟩

theorem accepts_symm (halike : IgnoresAlike κ settings) {a b : Diagnostic κ}
    (h : a.accepts settings b = true) : b.accepts settings a = true := by
  obtain ⟨ha, hab⟩ := accepts_iff.mp h
  exact accepts_iff.mpr ⟨(ignored_eq halike hab).symm.trans ha, couldMerge_symm hab⟩

theorem accepts_trans {a b c : Diagnostic κ} (h : a.accepts settings b = true)
    (k : b.accepts settings c = true) : a.accepts settings c = true := by
  obtain ⟨ha, hab⟩ := accepts_iff.mp h
  obtain ⟨_, hbc⟩ := accepts_iff.mp k
  exact accepts_iff.mpr ⟨ha, couldMerge_trans hab hbc⟩

omit [EquivBEq κ] in
theorem index_eq_of_place {ds : List (Diagnostic κ)} {a b : Diagnostic κ × Nat} {q k : Nat}
    (ha : (leads settings ds)[q]? = some a) (hb : (leads settings ds)[k]? = some b)
    (h : a.2 = b.2) : q = k := by
  have hnodup : ((leads settings ds).map Prod.snd).Nodup :=
    (List.pairwise_map.mpr (leads_pairwise ds)).imp Nat.ne_of_lt
  have hq : q < ((leads settings ds).map Prod.snd).length := by
    rw [List.length_map]
    exact (List.getElem?_eq_some_iff.mp ha).1
  refine (List.getElem?_inj hq hnodup).mp ?_
  rw [List.getElem?_map, List.getElem?_map, ha, hb, Option.map_some, Option.map_some, h]

theorem eq_of_accepts_of_mem_leads (halike : IgnoresAlike κ settings)
    {ds : List (Diagnostic κ)} {a b : Diagnostic κ} {i j : Nat}
    (ha : (a, i) ∈ leads settings ds) (hb : (b, j) ∈ leads settings ds)
    (h : a.accepts settings b = true) : i = j := by
  obtain ⟨hi, ha⟩ := mem_leads.mp ha
  obtain ⟨hj, hb⟩ := mem_leads.mp hb
  rcases Nat.lt_trichotomy i j with hlt | heq | hgt
  · have hmem : a ∈ ds.take j := List.mem_of_getElem? ((List.getElem?_take_of_lt hlt).trans hi)
    rw [hb a hmem] at h
    cases h
  · exact heq
  · have hmem : b ∈ ds.take i := List.mem_of_getElem? ((List.getElem?_take_of_lt hgt).trans hj)
    have hba := accepts_symm halike h
    rw [ha b hmem] at hba
    cases hba

theorem exists_lead {ds : List (Diagnostic κ)} {d : Diagnostic κ} {i : Nat}
    (hi : ds[i]? = some d) (hd : d.ignored settings = false) :
    ∃ lead j, (lead, j) ∈ leads settings ds ∧ lead.accepts settings d = true ∧
      ∀ before ∈ ds.take j, before.accepts settings d = false := by
  have hany : ∃ c ∈ ds, c.accepts settings d = true :=
    ⟨d, List.mem_of_getElem? hi, accepts_self hd⟩
  have hlt := List.findIdx_lt_length_of_exists hany
  have hlead := List.findIdx_getElem (w := hlt)
  have hbefore : ∀ before ∈ ds.take (ds.findIdx (·.accepts settings d)),
      before.accepts settings d = false := by
    intro before hmem
    obtain ⟨k, hk, rfl⟩ := List.mem_take_iff_getElem.mp hmem
    simpa using List.not_of_lt_findIdx (Nat.lt_of_lt_of_le hk (Nat.min_le_left _ _))
  refine ⟨_, _, mem_leads.mpr ⟨List.getElem?_eq_getElem hlt, ?_⟩, hlead, hbefore⟩
  intro before hmem
  rw [Bool.eq_false_iff]
  intro h
  have haccepts := accepts_trans h hlead
  rw [hbefore before hmem] at haccepts
  cases haccepts

theorem mem_leads_of_ignored (halike : IgnoresAlike κ settings) {ds : List (Diagnostic κ)}
    {d : Diagnostic κ} {i : Nat} (hi : ds[i]? = some d) (hd : d.ignored settings = true) :
    (d, i) ∈ leads settings ds := by
  refine mem_leads.mpr ⟨hi, ?_⟩
  intro before _
  rw [Bool.eq_false_iff]
  intro h
  obtain ⟨hnot, _⟩ := accepts_iff.mp (accepts_symm halike h)
  rw [hd] at hnot
  cases hnot

theorem index_eq_of_accepts (halike : IgnoresAlike κ settings) {ds : List (Diagnostic κ)}
    {a b : Diagnostic κ × Nat} {q k : Nat} {d : Diagnostic κ}
    (ha : (leads settings ds)[q]? = some a) (hb : (leads settings ds)[k]? = some b)
    (had : a.1.accepts settings d = true) (hbd : b.1.accepts settings d = true) : q = k := by
  have hab : a.1.accepts settings b.1 = true := accepts_trans had (accepts_symm halike hbd)
  have hplace : a.2 = b.2 :=
    eq_of_accepts_of_mem_leads halike (List.mem_of_getElem? ha) (List.mem_of_getElem? hb) hab
  exact index_eq_of_place ha hb hplace

omit [EquivBEq κ] in
theorem gathered_accepts (ds : List (Diagnostic κ)) (lead d : Diagnostic κ) :
    (gathered settings ds lead).accepts settings d = lead.accepts settings d := by
  unfold gathered
  split <;> rfl

omit [EquivBEq κ] in
theorem gathered_of_ignored {lead : Diagnostic κ} (h : lead.ignored settings = true)
    (ds : List (Diagnostic κ)) : gathered settings ds lead = lead :=
  if_pos h

omit [EquivBEq κ] in
theorem gathered_of_not_ignored {lead : Diagnostic κ} (h : lead.ignored settings = false)
    (ds : List (Diagnostic κ)) :
    gathered settings ds lead =
      { lead with excerpts := (ds.filter (lead.accepts settings ·)).flatMap (·.excerpts) } :=
  if_neg (by simp [h])

omit [EquivBEq κ] in
theorem gathered_append (ds : List (Diagnostic κ)) (lead d : Diagnostic κ) :
    gathered settings (ds ++ [d]) lead =
      if lead.accepts settings d then (gathered settings ds lead).addExcerpts d.excerpts
      else gathered settings ds lead := by
  cases hlead : lead.ignored settings with
  | true =>
    have hnot : ¬ lead.accepts settings d = true := by
      intro h
      rw [accepts_iff, hlead] at h
      cases h.1
    rw [if_neg hnot, gathered_of_ignored hlead, gathered_of_ignored hlead]
  | false =>
    rw [gathered_of_not_ignored hlead, gathered_of_not_ignored hlead, List.filter_append,
      List.flatMap_append, List.filter_cons, List.filter_nil]
    cases lead.accepts settings d with
    | true => simp only [if_true, List.flatMap_cons, List.flatMap_nil, List.append_nil, addExcerpts]
    | false => simp

theorem gathered_append_self (halike : IgnoresAlike κ settings) {ds : List (Diagnostic κ)}
    {d : Diagnostic κ} (h : ∀ old ∈ ds, old.accepts settings d = false) :
    gathered settings (ds ++ [d]) d = d := by
  cases hd : d.ignored settings with
  | true => exact gathered_of_ignored hd _
  | false =>
    have hnil : ds.filter (d.accepts settings ·) = [] := by
      refine List.filter_eq_nil_iff.mpr ?_
      intro old hmem haccepts
      have hback := accepts_symm halike haccepts
      rw [h old hmem] at hback
      cases hback
    rw [gathered_of_not_ignored hd, List.filter_append, hnil, List.nil_append, List.filter_cons,
      if_pos (accepts_self hd), List.filter_nil, List.flatMap_singleton]
    cases d
    rfl

omit [EquivBEq κ] in
theorem any_accepts_of_mem_leads {ds : List (Diagnostic κ)} {lead d : Diagnostic κ} {j : Nat}
    (hlead : (lead, j) ∈ leads settings ds) (h : lead.accepts settings d = true) :
    ds.any (·.accepts settings d) = true :=
  List.any_eq_true.mpr ⟨lead, List.mem_of_getElem? (mem_leads.mp hlead).1, h⟩

theorem not_accepts_of_leads {ds : List (Diagnostic κ)} {d : Diagnostic κ}
    (h : ∀ p ∈ leads settings ds, p.1.accepts settings d = false) :
    ∀ old ∈ ds, old.accepts settings d = false := by
  intro old hmem
  rw [Bool.eq_false_iff]
  intro haccepts
  obtain ⟨i, hi⟩ := List.mem_iff_getElem?.mp hmem
  obtain ⟨lead, j, hlead, hold, _⟩ := exists_lead hi (accepts_iff.mp haccepts).1
  have hd := accepts_trans hold haccepts
  rw [h _ hlead] at hd
  cases hd

theorem map_gathered_append_of_not_accepts (halike : IgnoresAlike κ settings)
    {ds : List (Diagnostic κ)} {d : Diagnostic κ}
    (h : ∀ p ∈ leads settings ds, p.1.accepts settings d = false) :
    (leads settings (ds ++ [d])).map (fun p => gathered settings (ds ++ [d]) p.1) =
      (leads settings ds).map (fun p => gathered settings ds p.1) ++ [d] := by
  have hany : ¬ ds.any (·.accepts settings d) = true := by
    simpa using not_accepts_of_leads h
  have hsame : ∀ p ∈ leads settings ds,
      gathered settings (ds ++ [d]) p.1 = gathered settings ds p.1 := by
    intro p hp
    rw [gathered_append, if_neg (by simp [h p hp])]
  rw [leads_append, if_neg hany, List.map_append, List.map_congr_left hsame, List.map_singleton,
    gathered_append_self halike (not_accepts_of_leads h)]

theorem map_gathered_append_of_accepts (halike : IgnoresAlike κ settings)
    {ds : List (Diagnostic κ)} {p : Diagnostic κ × Nat} {q : Nat} {d : Diagnostic κ}
    (hp : (leads settings ds)[q]? = some p) (h : p.1.accepts settings d = true) :
    (leads settings (ds ++ [d])).map (fun p => gathered settings (ds ++ [d]) p.1) =
      ((leads settings ds).map fun p => gathered settings ds p.1).set q
        ((gathered settings ds p.1).addExcerpts d.excerpts) := by
  have hany := any_accepts_of_mem_leads (List.mem_of_getElem? hp) h
  rw [leads_append, if_pos hany, List.append_nil]
  refine List.ext_getElem? fun k => ?_
  rw [List.getElem?_set, List.length_map, List.getElem?_map, List.getElem?_map]
  by_cases hk : q = k
  · subst hk
    rw [if_pos rfl, if_pos (List.getElem?_eq_some_iff.mp hp).1, hp, Option.map_some,
      gathered_append, if_pos h]
  · rw [if_neg hk]
    refine Option.map_congr ?_
    intro r hr
    have hnot : ¬ r.1.accepts settings d = true :=
      fun hd => hk (index_eq_of_accepts halike hp hr h hd)
    rw [gathered_append, if_neg hnot]

/-- The entries are the leads, each with what it gathers. -/
theorem combineAll_eq_map_gathered (halike : IgnoresAlike κ settings)
    (ds : List (Diagnostic κ)) :
    combineAll settings ds = (leads settings ds).map fun p => gathered settings ds p.1 := by
  -- from the back, as the diagnostic issued last meets the entries of all before it
  induction ds using List.reverseRecOn with
  | nil => rfl
  | append_singleton ds d ih =>
    rw [combineAll_append_singleton]
    obtain ⟨hnone, hcombine⟩ | ⟨q, old, hq, hold, _, hcombine⟩ :=
      combine_cases settings (combineAll settings ds) d
    · have hleads : ∀ p ∈ leads settings ds, p.1.accepts settings d = false := by
        intro p hp
        rw [← gathered_accepts ds]
        refine hnone _ ?_
        rw [ih]
        exact List.mem_map_of_mem hp
      rw [hcombine, ih, map_gathered_append_of_not_accepts halike hleads]
    · rw [ih, List.getElem?_map, Option.map_eq_some_iff] at hq
      obtain ⟨p, hp, rfl⟩ := hq
      rw [gathered_accepts] at hold
      rw [hcombine, ih, map_gathered_append_of_accepts halike hp hold]

/-- The diagnostics of `ds` in groups: entry `q` is that of the diagnostic issued at `first[q]`. -/
structure StableGroups (settings : Option σ) (ds : List (Diagnostic κ)) (first : List Nat)
    (entries : List (Diagnostic κ)) : Prop where
  length_eq : first.length = entries.length
  increasing : first.Pairwise (· < ·)
  issued : ∀ (q i : Nat) (entry : Diagnostic κ), first[q]? = some i → entries[q]? = some entry →
    ∃ d, ds[i]? = some d ∧ entry = { d with excerpts := entry.excerpts }
  /-- An ignored diagnostic is an entry of its own, as it was issued. -/
  apart : ∀ (i : Nat) (d : Diagnostic κ), ds[i]? = some d → d.ignored settings = true →
    ∃! q : Nat, first[q]? = some i ∧ entries[q]? = some d
  /-- Any other is in exactly one entry: the first diagnostic it could be merged with, with the
  excerpts of all of them. -/
  together : ∀ (i : Nat) (d : Diagnostic κ), ds[i]? = some d → d.ignored settings = false →
    ∃ (q j : Nat) (lead : Diagnostic κ), first[q]? = some j ∧ ds[j]? = some lead ∧
      lead.couldMerge d = true ∧ (∀ before ∈ ds.take j, before.couldMerge d = false) ∧
      entries[q]? = some
        { lead with excerpts := (ds.filter (·.couldMerge d)).flatMap (·.excerpts) } ∧
      ∀ (k : Nat) (entry : Diagnostic κ), entries[k]? = some entry →
        entry.couldMerge d = true → k = q

omit [EquivBEq κ] in
theorem accepts_eq_couldMerge (halike : IgnoresAlike κ settings) {d : Diagnostic κ}
    (hd : d.ignored settings = false) (c : Diagnostic κ) :
    c.accepts settings d = c.couldMerge d := by
  rw [Bool.eq_iff_iff, accepts_iff]
  constructor
  · exact fun h => h.2
  · exact fun h => ⟨(ignored_eq halike h).trans hd, h⟩

omit [EquivBEq κ] in
theorem gathered_eq (ds : List (Diagnostic κ)) (lead : Diagnostic κ) :
    gathered settings ds lead =
      { lead with excerpts := (gathered settings ds lead).excerpts } := by
  unfold gathered
  split
  · cases lead
    rfl
  · rfl

theorem gathered_eq_of_accepts (halike : IgnoresAlike κ settings) {lead d : Diagnostic κ}
    (h : lead.accepts settings d = true) (ds : List (Diagnostic κ)) :
    gathered settings ds lead =
      { lead with excerpts := (ds.filter (·.couldMerge d)).flatMap (·.excerpts) } := by
  have hlead := (accepts_iff.mp h).1
  have hd : d.ignored settings = false := (accepts_iff.mp (accepts_symm halike h)).1
  have hfilter : ∀ c ∈ ds, lead.accepts settings c = c.couldMerge d := by
    intro c _
    rw [← accepts_eq_couldMerge halike hd, Bool.eq_iff_iff]
    constructor
    · exact fun hc => accepts_trans (accepts_symm halike hc) h
    · exact fun hc => accepts_trans h (accepts_symm halike hc)
  rw [gathered_of_not_ignored hlead, List.filter_congr hfilter]

theorem stableGroups_combineAll (halike : IgnoresAlike κ settings) (ds : List (Diagnostic κ)) :
    StableGroups settings ds ((leads settings ds).map Prod.snd) (combineAll settings ds) where
  length_eq := by
    rw [combineAll_eq_map_gathered halike, List.length_map, List.length_map]
  increasing := List.pairwise_map.mpr (leads_pairwise ds)
  issued := by
    intro q i entry hq hentry
    rw [List.getElem?_map, Option.map_eq_some_iff] at hq
    obtain ⟨⟨d, j⟩, hlead, rfl⟩ := hq
    rw [combineAll_eq_map_gathered halike, List.getElem?_map, hlead, Option.map_some] at hentry
    obtain rfl := Option.some.inj hentry
    exact ⟨d, (mem_leads.mp (List.mem_of_getElem? hlead)).1, gathered_eq ds d⟩
  apart := by
    intro i d hi hd
    obtain ⟨q, hq⟩ := List.mem_iff_getElem?.mp (mem_leads_of_ignored halike hi hd)
    refine ⟨q, ⟨?_, ?_⟩, ?_⟩
    · rw [List.getElem?_map, hq, Option.map_some]
    · rw [combineAll_eq_map_gathered halike, List.getElem?_map, hq, Option.map_some,
        gathered_of_ignored hd]
    · rintro k ⟨hk, _⟩
      rw [List.getElem?_map, Option.map_eq_some_iff] at hk
      obtain ⟨p, hp, hplace⟩ := hk
      exact index_eq_of_place hp hq hplace
  together := by
    intro i d hi hd
    obtain ⟨lead, j, hmem, haccepts, hbefore⟩ := exists_lead hi hd
    obtain ⟨q, hq⟩ := List.mem_iff_getElem?.mp hmem
    refine ⟨q, j, lead, ?_, (mem_leads.mp hmem).1, (accepts_iff.mp haccepts).2, ?_, ?_, ?_⟩
    · rw [List.getElem?_map, hq, Option.map_some]
    · intro before hb
      rw [← accepts_eq_couldMerge halike hd]
      exact hbefore before hb
    · rw [combineAll_eq_map_gathered halike, List.getElem?_map, hq, Option.map_some,
        gathered_eq_of_accepts halike haccepts]
    · intro k entry hk hmerge
      rw [combineAll_eq_map_gathered halike, List.getElem?_map, Option.map_eq_some_iff] at hk
      obtain ⟨p, hp, rfl⟩ := hk
      rw [← accepts_eq_couldMerge halike hd, gathered_accepts] at hmerge
      exact index_eq_of_accepts halike hp hq hmerge haccepts

/-- Whatever is issued is collected in stable groups, and whatever has been collected, one more
diagnostic is appended or changes one slot: the first that accepts it gets its excerpts. -/
theorem collects_stable_groups (settings : Option σ) :
    (IgnoresAlike κ settings → ∀ ds : List (Diagnostic κ),
      ∃ first, StableGroups settings ds first (combineAll settings ds)) ∧
    ∀ (collected : List (Diagnostic κ)) (new : Diagnostic κ),
      ((∀ old ∈ collected, ¬ (old.ignored settings = false ∧ old.couldMerge new = true)) ∧
        combine settings collected new = collected ++ [new]) ∨
      ∃ (i : Nat) (old : Diagnostic κ), collected[i]? = some old ∧
        (old.ignored settings = false ∧ old.couldMerge new = true) ∧
        (∀ before ∈ collected.take i,
          ¬ (before.ignored settings = false ∧ before.couldMerge new = true)) ∧
        combine settings collected new =
          collected.set i { old with excerpts := old.excerpts ++ new.excerpts } := by
  refine ⟨fun halike ds => ⟨_, stableGroups_combineAll halike ds⟩, ?_⟩
  intro collected new
  simp only [← accepts_iff, Bool.not_eq_true]
  exact combine_cases settings collected new

/-- Kinds of findings, of which hints are listed one by one. -/
inductive Finding where
  | fault
  | hint
  deriving DecidableEq

instance : Kind Finding Unit where
  label _ := "finding".toList
  isBlocking f _ := f == .fault
  ignoredForMerge f _ := f == .hint

def findings : List (Diagnostic Finding) :=
  [new .fault "tab".toList [] { lineNumber := some 1 },
    new .hint "long line".toList [] { lineNumber := some 2 },
    new .fault "tab".toList [] { lineNumber := some 3 },
    new .hint "long line".toList [] { lineNumber := some 4 }]

/-- The faults become one entry, ahead of the hints. -/
theorem collects_findings :
    IgnoresAlike Finding none ∧
    (∃ first, StableGroups none findings first (combineAll none findings)) ∧
    (combineAll none findings).map (fun d => (d.kind, d.excerpts.map (·.lineNumber))) =
      [(.fault, [some 1, some 3]), (.hint, [some 2]), (.hint, [some 4])] := by
  have halike : IgnoresAlike Finding none := by
    intro k k' h
    rw [eq_of_beq h]
  refine ⟨halike, (collects_stable_groups none).1 halike findings, ?_⟩
  decide

end SourceReport.Diagnostic

import SourceReport.Proofs.Diagnostic.Equality
import SourceReport.Proofs.Json.Reading
import SourceReport.Proofs.Results
import SourceReport.Record.Decode

namespace SourceReport

namespace Diagnostic
variable {κ κ' : Type}

mutual

/-- The kinds of a diagnostic and of all its causes, each before those of its causes. -/
def kinds : Diagnostic κ → List κ
  | ⟨kind, _, _, _, _, _, causes⟩ => kind :: kindsAll causes

def kindsAll : List (Diagnostic κ) → List κ
  | [] => []
  | d :: ds => d.kinds ++ kindsAll ds

end

mutual

def mapKind (f : κ → κ') : Diagnostic κ → Diagnostic κ'
  | ⟨kind, title, details, suggestions, version, excerpts, causes⟩ =>
    ⟨f kind, title, details, suggestions, version, excerpts, mapKindAll f causes⟩

def mapKindAll (f : κ → κ') : List (Diagnostic κ) → List (Diagnostic κ')
  | [] => []
  | d :: ds => d.mapKind f :: mapKindAll f ds

end

mutual

theorem mapKind_id : ∀ d : Diagnostic κ, d.mapKind id = d
  | ⟨_, _, _, _, _, _, causes⟩ => by rw [mapKind, mapKindAll_id causes, id]

theorem mapKindAll_id : ∀ ds : List (Diagnostic κ), mapKindAll id ds = ds
  | [] => rfl
  | d :: ds => by rw [mapKindAll, mapKind_id d, mapKindAll_id ds]

end

theorem beq_map_toOwned (es : List Excerpt) : (es.map Excerpt.toOwned == es) = true := by
  induction es with
  | nil => rfl
  | cons e es ih =>
    rw [List.map_cons, List.cons_beq_cons, ih, Bool.and_true]
    exact Excerpt.beq_iff.mpr ⟨rfl, rfl, rfl, rfl, rfl⟩

mutual

theorem same_toOwned [BEq κ] [ReflBEq κ] : ∀ d : Diagnostic κ, same d.toOwned d = true
  | ⟨_, _, _, _, _, excerpts, causes⟩ =>
    same_iff.mpr ⟨BEq.rfl, rfl, rfl, rfl, rfl, beq_map_toOwned excerpts, sameAll_toOwnedAll causes⟩

theorem sameAll_toOwnedAll [BEq κ] [ReflBEq κ] :
    ∀ ds : List (Diagnostic κ), sameAll (toOwnedAll ds) ds = true
  | [] => by rw [toOwnedAll, sameAll]
  | d :: ds => sameAll_cons.mpr ⟨same_toOwned d, sameAll_toOwnedAll ds⟩

end

end Diagnostic

namespace Record

theorem mapM_toText (texts : List (List Char)) : (texts.map Json.str).mapM toText = .ok texts := by
  induction texts with
  | nil => rfl
  | cons s texts ih =>
    rw [List.map_cons, List.mapM_cons, ih]
    rfl

/-- Parts whose drafts can be settled have drafts that can be settled one after the other. -/
theorem exists_drafts {α β γ δ : Type} {make : α → β} {draft : β → Result γ}
    {settle : γ → Result δ} (value : α → δ)
    (h : ∀ x, ∃ r, draft (make x) = .ok r ∧ settle r = .ok (value x)) (xs : List α) :
    ∃ rs, (xs.map make).mapM draft = .ok rs ∧ rs.mapM settle = .ok (xs.map value) := by
  induction xs with
  | nil => exact ⟨[], rfl, rfl⟩
  | cons x xs ih =>
    obtain ⟨r, hr, hsettle⟩ := h x
    obtain ⟨rs, hrs, hsettles⟩ := ih
    refine ⟨r :: rs, ?_, ?_⟩
    · rw [List.map_cons, List.mapM_cons, hr, hrs]
      rfl
    · rw [List.mapM_cons, hsettle, hsettles]
      rfl

theorem toOptional_text (value : Option (List Char)) :
    toOptional toText (optional .str value) = .ok value := by
  cases value <;> rfl

theorem toOptional_integer (value : Option Int) :
    toOptional toInteger (optional .num value) = .ok value := by
  cases value <;> rfl

theorem draftHighlight_ofHighlight (h : Highlight) :
    ∃ r, draftHighlight (ofHighlight h) = .ok r ∧ r.settle = .ok h := by
  obtain ⟨line, offset, length, comment⟩ := h
  exact ⟨⟨.num line, .num offset, .num length, optional .str comment⟩, rfl,
    by cases comment <;> rfl⟩

theorem draftExcerpt_ofExcerpt (e : Excerpt) :
    ∃ r, draftExcerpt (ofExcerpt e) = .ok r ∧ r.settle = .ok e.toOwned := by
  obtain ⟨rs, hrs, hsettle⟩ := exists_drafts id draftHighlight_ofHighlight e.highlights
  rw [List.map_id] at hsettle
  refine ⟨⟨optional .str e.source, optional .num e.lineNumber, .num e.firstLineOffset,
    .str e.text.content, rs⟩, ?_, ?_⟩
  · change (do
      let highlights ← (e.highlights.map ofHighlight).mapM draftHighlight
      return ({ source := optional .str e.source, lineNumber := optional .num e.lineNumber
                firstLineOffset := .num e.firstLineOffset, text := .str e.text.content
                highlights } : ExcerptDraft)) = _
    rw [hrs]
    rfl
  · rw [ExcerptDraft.settle, toOptional_text, toOptional_integer, hsettle]
    rfl

variable {κ κ' : Type}

/-- The record of a diagnostic whose kind has a name, with the records of its causes. -/
def record (name : List Char) (d : Diagnostic κ) (causes : List Json) : Json :=
  .obj [("kind".toList, .str name), ("short_description".toList, .str d.title),
    ("long_description".toList, .str d.details),
    ("suggestions".toList, .arr (d.suggestions.map .str)), ("version".toList, .str d.version),
    ("contexts".toList, .arr (d.excerpts.map ofExcerpt)), ("underlying".toList, .arr causes)]

theorem exists_of_depth_record_le {name : List Char} {d : Diagnostic κ} {causes : List Json}
    {depth : Nat} (h : (record name d causes).depth ≤ depth) :
    ∃ below, depth = below + 1 ∧ Json.itemsDepth causes ≤ below := by
  simp only [record, Json.depth, Json.fieldsDepth] at h
  exact ⟨depth - 1, by omega, by omega⟩

theorem toKind_record (names : KindNames κ') (name : List Char) (d : Diagnostic κ)
    (causes : List Json) :
    toKind names (record name d causes) =
      match names.members.lookup name with
      | some kind => .ok kind
      | none => .error (.unknownKind names.typeName (.str name)) :=
  rfl

/-- The draft of a record has the drafts of its causes, and settling it settles these. -/
theorem exists_draftAt_record (names : KindNames κ') (depth : Nat) (name : List Char)
    (d : Diagnostic κ) (causes : List Json) :
    ∃ make : κ' → List (Draft κ') → Draft κ',
      draftAt names (depth + 1) (record name d causes) = (do
        let kind ← toKind names (record name d causes)
        let causes ← causes.mapM (draftAt names depth)
        return make kind causes) ∧
      ∀ kind drafts, (make kind drafts).settle = (do
        let causes ← Draft.settleAll drafts
        return { kind, title := d.title, details := d.details, suggestions := d.suggestions
                 version := d.version, excerpts := d.excerpts.map Excerpt.toOwned, causes }) := by
  obtain ⟨rs, hrs, hsettle⟩ := exists_drafts _ draftExcerpt_ofExcerpt d.excerpts
  refine ⟨fun kind causes => ⟨kind, .str d.title, .str d.details, d.suggestions.map .str,
    .str d.version, rs, causes⟩, ?_, ?_⟩
  · change (do
      let kind ← toKind names (record name d causes)
      let excerpts ← (d.excerpts.map ofExcerpt).mapM draftExcerpt
      let causes ← causes.mapM (draftAt names depth)
      return (⟨kind, .str d.title, .str d.details, d.suggestions.map .str, .str d.version,
        excerpts, causes⟩ : Draft κ')) = _
    rw [hrs]
    rfl
  · intro kind drafts
    rw [Draft.settle, mapM_toText, hsettle]
    rfl

theorem plain_optional {α : Type} {make : α → Json} (h : ∀ x, (make x).Plain)
    (value : Option α) : (optional make value).Plain := by
  cases value with
  | none => trivial
  | some x => exact h x

theorem plainItems_map {α : Type} {make : α → Json} (h : ∀ x, (make x).Plain) (xs : List α) :
    Json.PlainItems (xs.map make) := by
  induction xs with
  | nil => trivial
  | cons x xs ih => exact ⟨h x, ih⟩

theorem plain_str (s : List Char) : (Json.str s).Plain := trivial

theorem plain_num (n : Int) : (Json.num n).Plain := trivial

theorem plain_ofHighlight (h : Highlight) : (ofHighlight h).Plain := by
  refine ⟨?_, trivial, trivial, trivial, plain_optional plain_str _, trivial⟩
  simp only [List.map_cons, List.map_nil]
  decide

theorem plain_ofExcerpt (e : Excerpt) : (ofExcerpt e).Plain := by
  refine ⟨?_, plain_optional plain_str _, plain_optional plain_num _, trivial, trivial,
    plainItems_map plain_ofHighlight _, trivial⟩
  simp only [List.map_cons, List.map_nil]
  decide

theorem plain_record {name : List Char} {d : Diagnostic κ} {causes : List Json}
    (h : Json.PlainItems causes) : (record name d causes).Plain := by
  refine ⟨?_, trivial, trivial, trivial, plainItems_map plain_str _, trivial,
    plainItems_map plain_ofExcerpt _, h, trivial⟩
  simp only [List.map_cons, List.map_nil]
  decide

variable [NamedKind κ]

theorem ofDiagnostic_eq_ok_iff {d : Diagnostic κ} {j : Json} :
    ofDiagnostic d = .ok j ↔ ∃ name causes, NamedKind.recordName d.kind = .ok name ∧
      ofDiagnostics d.causes = .ok causes ∧ record name d causes = j := by
  obtain ⟨kind, title, details, suggestions, version, excerpts, causes⟩ := d
  rw [ofDiagnostic, bind_eq_ok_iff]
  constructor
  · rintro ⟨name, hname, h⟩
    obtain ⟨causes, hcauses, h⟩ := bind_eq_ok_iff.mp h
    exact ⟨name, causes, mapError_eq_ok_iff.mp hname, hcauses, Except.ok.inj h⟩
  · rintro ⟨name, causes, hname, hcauses, rfl⟩
    exact ⟨name, mapError_eq_ok_iff.mpr hname, bind_eq_ok_iff.mpr ⟨causes, hcauses, rfl⟩⟩

theorem ofDiagnostics_cons_eq_ok_iff {d : Diagnostic κ} {ds : List (Diagnostic κ)}
    {js : List Json} : ofDiagnostics (d :: ds) = .ok js ↔
      ∃ j rest, ofDiagnostic d = .ok j ∧ ofDiagnostics ds = .ok rest ∧ j :: rest = js := by
  rw [ofDiagnostics, bind_eq_ok_iff]
  constructor
  · rintro ⟨j, hj, h⟩
    obtain ⟨rest, hrest, h⟩ := bind_eq_ok_iff.mp h
    exact ⟨j, rest, hj, hrest, Except.ok.inj h⟩
  · rintro ⟨j, rest, hj, hrest, rfl⟩
    exact ⟨j, hj, bind_eq_ok_iff.mpr ⟨rest, hrest, rfl⟩⟩

mutual

theorem exists_ofDiagnostic_iff : ∀ d : Diagnostic κ, (∃ j, ofDiagnostic d = .ok j) ↔
    ∀ k ∈ d.kinds, ∃ name, NamedKind.recordName k = .ok name
  | ⟨kind, title, details, suggestions, version, excerpts, causes⟩ => by
    simp only [ofDiagnostic_eq_ok_iff, Diagnostic.kinds, List.forall_mem_cons,
      ← exists_ofDiagnostics_iff causes]
    constructor
    · rintro ⟨j, name, records, hname, hcauses, -⟩
      exact ⟨⟨name, hname⟩, records, hcauses⟩
    · rintro ⟨⟨name, hname⟩, records, hcauses⟩
      exact ⟨_, name, records, hname, hcauses, rfl⟩

theorem exists_ofDiagnostics_iff : ∀ ds : List (Diagnostic κ),
    (∃ js, ofDiagnostics ds = .ok js) ↔
      ∀ k ∈ Diagnostic.kindsAll ds, ∃ name, NamedKind.recordName k = .ok name
  | [] => ⟨fun _ _ hk => (List.not_mem_nil hk).elim, fun _ => ⟨[], rfl⟩⟩
  | d :: ds => by
    simp only [ofDiagnostics_cons_eq_ok_iff, Diagnostic.kindsAll, List.forall_mem_append,
      ← exists_ofDiagnostic_iff d, ← exists_ofDiagnostics_iff ds]
    constructor
    · rintro ⟨js, j, rest, hj, hrest, -⟩
      exact ⟨⟨j, hj⟩, rest, hrest⟩
    · rintro ⟨⟨j, hj⟩, rest, hrest⟩
      exact ⟨_, j, rest, hj, hrest, rfl⟩

end

theorem exists_unnamed_iff (d : Diagnostic κ) :
    (∃ typeName, ofDiagnostic d = .error (.unnamedKind typeName)) ↔
      ∃ k ∈ d.kinds, ∃ typeName, NamedKind.recordName k = .error typeName := by
  have hok := exists_ofDiagnostic_iff d
  constructor
  · rintro ⟨typeName, herror⟩
    have hnone : ¬ ∃ j, ofDiagnostic d = .ok j := by
      rintro ⟨j, hj⟩
      rw [herror] at hj
      cases hj
    rw [hok] at hnone
    simp only [Classical.not_forall, not_exists] at hnone
    obtain ⟨k, hk, hname⟩ := hnone
    cases hkind : NamedKind.recordName k with
    | error typeName => exact ⟨k, hk, typeName, hkind⟩
    | ok name => exact absurd hkind (hname name)
  · rintro ⟨k, hk, typeName, hkind⟩
    cases hrecord : ofDiagnostic d with
    | error e =>
      obtain ⟨typeName⟩ := e
      exact ⟨typeName, rfl⟩
    | ok j =>
      obtain ⟨name, hname⟩ := hok.mp ⟨j, hrecord⟩ k hk
      rw [hkind] at hname
      cases hname

mutual

theorem ofDiagnostic_toOwned : ∀ d : Diagnostic κ, ofDiagnostic d.toOwned = ofDiagnostic d
  | ⟨kind, title, details, suggestions, version, excerpts, causes⟩ => by
    have hexcerpts : (excerpts.map Excerpt.toOwned).map ofExcerpt = excerpts.map ofExcerpt := by
      rw [List.map_map]
      rfl
    rw [Diagnostic.toOwned, ofDiagnostic, ofDiagnostic, ofDiagnostics_toOwnedAll causes, hexcerpts]

theorem ofDiagnostics_toOwnedAll :
    ∀ ds : List (Diagnostic κ), ofDiagnostics (Diagnostic.toOwnedAll ds) = ofDiagnostics ds
  | [] => rfl
  | d :: ds => by
    rw [Diagnostic.toOwnedAll, ofDiagnostics, ofDiagnostics, ofDiagnostic_toOwned d,
      ofDiagnostics_toOwnedAll ds]

end

mutual

theorem plain_ofDiagnostic : ∀ (d : Diagnostic κ) {j : Json}, ofDiagnostic d = .ok j → j.Plain
  | ⟨kind, title, details, suggestions, version, excerpts, causes⟩, j, h => by
    obtain ⟨name, records, -, hcauses, rfl⟩ := ofDiagnostic_eq_ok_iff.mp h
    exact plain_record (plainItems_ofDiagnostics causes hcauses)

theorem plainItems_ofDiagnostics : ∀ (ds : List (Diagnostic κ)) {js : List Json},
    ofDiagnostics ds = .ok js → Json.PlainItems js
  | [], js, h => by
    cases h
    trivial
  | d :: ds, js, h => by
    obtain ⟨j, rest, hj, hrest, rfl⟩ := ofDiagnostics_cons_eq_ok_iff.mp h
    exact ⟨plain_ofDiagnostic d hj, plainItems_ofDiagnostics ds hrest⟩

end

section
variable {names : KindNames κ'}

-- By recursion on the diagnostic. The record of a cause is one level less deep than the record that
-- holds it, so a depth that is enough for the one leaves enough for the other.
mutual

/-- With a name for every kind, the diagnostic is read back with the kinds of these names. -/
theorem draftAt_of_members {f : κ → κ'} : ∀ (d : Diagnostic κ) {j : Json} {depth : Nat},
    ofDiagnostic d = .ok j →
    (∀ k ∈ d.kinds, ∃ name, NamedKind.recordName k = .ok name ∧
      names.members.lookup name = some (f k)) →
    j.depth ≤ depth →
    ∃ r, draftAt names depth j = .ok r ∧ r.settle = .ok (d.toOwned.mapKind f)
  | ⟨kind, title, details, suggestions, version, excerpts, causes⟩, j, depth, h, hk, hdepth => by
    obtain ⟨name, records, hname, hcauses, rfl⟩ := ofDiagnostic_eq_ok_iff.mp h
    obtain ⟨below, rfl, hbelow⟩ := exists_of_depth_record_le hdepth
    rw [Diagnostic.kinds, List.forall_mem_cons] at hk
    obtain ⟨⟨name', hname', hmember⟩, hk⟩ := hk
    obtain rfl : name = name' := Except.ok.inj (hname.symm.trans hname')
    obtain ⟨make, hdraft, hsettle⟩ := exists_draftAt_record names below name
      ⟨kind, title, details, suggestions, version, excerpts, causes⟩ records
    obtain ⟨rs, hrs, hsettles⟩ := mapM_of_members causes hcauses hk hbelow
    refine ⟨make (f kind) rs, ?_, ?_⟩
    · rw [hdraft, toKind_record, hmember, hrs]
      rfl
    · rw [hsettle, hsettles]
      rfl

theorem mapM_of_members {f : κ → κ'} : ∀ (ds : List (Diagnostic κ)) {js : List Json} {depth : Nat},
    ofDiagnostics ds = .ok js →
    (∀ k ∈ Diagnostic.kindsAll ds, ∃ name, NamedKind.recordName k = .ok name ∧
      names.members.lookup name = some (f k)) →
    Json.itemsDepth js ≤ depth →
    ∃ rs, js.mapM (draftAt names depth) = .ok rs ∧
      Draft.settleAll rs = .ok (Diagnostic.mapKindAll f (Diagnostic.toOwnedAll ds))
  | [], js, depth, h, _, _ => by
    cases h
    exact ⟨[], rfl, rfl⟩
  | d :: ds, js, depth, h, hk, hdepth => by
    obtain ⟨j, rest, hj, hrest, rfl⟩ := ofDiagnostics_cons_eq_ok_iff.mp h
    rw [Diagnostic.kindsAll, List.forall_mem_append] at hk
    rw [Json.itemsDepth] at hdepth
    obtain ⟨r, hr, hsettle⟩ :=
      draftAt_of_members d hj hk.1 (Nat.le_trans (Nat.le_max_left _ _) hdepth)
    obtain ⟨rs, hrs, hsettles⟩ :=
      mapM_of_members ds hrest hk.2 (Nat.le_trans (Nat.le_max_right _ _) hdepth)
    refine ⟨r :: rs, ?_, ?_⟩
    · rw [List.mapM_cons, hr, hrs]
      rfl
    · rw [Draft.settleAll, hsettle, hsettles]
      rfl

end

theorem toDiagnostic_of_members {f : κ → κ'} {d : Diagnostic κ} {j : Json}
    (h : ofDiagnostic d = .ok j) (hk : ∀ k ∈ d.kinds, ∃ name,
      NamedKind.recordName k = .ok name ∧ names.members.lookup name = some (f k)) :
    toDiagnostic names j = .ok (d.toOwned.mapKind f) := by
  obtain ⟨r, hr, hsettle⟩ := draftAt_of_members d h hk (Nat.le_refl _)
  exact bind_eq_ok_iff.mpr ⟨r, hr, hsettle⟩

def Known (names : KindNames κ') (k : κ) : Prop :=
  ∀ name, NamedKind.recordName k = .ok name → names.members.lookup name ≠ none

theorem not_known_iff {k : κ} : ¬ Known names k ↔
    ∃ name, NamedKind.recordName k = .ok name ∧ names.members.lookup name = none := by
  simp only [Known, ne_eq, Classical.not_forall, Classical.not_not, exists_prop]

mutual

theorem draftAt_known_or : ∀ (d : Diagnostic κ) {j : Json} {depth : Nat},
    ofDiagnostic d = .ok j → j.depth ≤ depth →
    ((∃ r d', draftAt names depth j = .ok r ∧ r.settle = .ok d') ∧ ∀ k ∈ d.kinds, Known names k) ∨
      ((∃ name, draftAt names depth j =
        .error (.unknownKind names.typeName (.str name))) ∧ ∃ k ∈ d.kinds, ¬ Known names k)
  | ⟨kind, title, details, suggestions, version, excerpts, causes⟩, j, depth, h, hdepth => by
    obtain ⟨name, records, hname, hcauses, rfl⟩ := ofDiagnostic_eq_ok_iff.mp h
    obtain ⟨below, rfl, hbelow⟩ := exists_of_depth_record_le hdepth
    obtain ⟨make, hdraft, hsettle⟩ := exists_draftAt_record names below name
      ⟨kind, title, details, suggestions, version, excerpts, causes⟩ records
    rw [Diagnostic.kinds, hdraft, toKind_record, List.forall_mem_cons]
    simp only [List.mem_cons, exists_eq_or_imp]
    cases hmember : names.members.lookup name with
    | none => exact Or.inr ⟨⟨name, rfl⟩, Or.inl fun hknown => hknown name hname hmember⟩
    | some member =>
      rcases mapM_known_or causes hcauses hbelow with
        ⟨⟨rs, ds, hrs, hds⟩, hk⟩ | ⟨⟨unknown, hds⟩, hk⟩
      · refine Or.inl ⟨⟨make member rs, _, by rw [hrs]; rfl, by rw [hsettle, hds]; rfl⟩, ?_, hk⟩
        intro name' hname' hnone
        obtain rfl : name = name' := Except.ok.inj (hname.symm.trans hname')
        rw [hmember] at hnone
        cases hnone
      · exact Or.inr ⟨⟨unknown, by rw [hds]; rfl⟩, Or.inr hk⟩

theorem mapM_known_or : ∀ (ds : List (Diagnostic κ)) {js : List Json} {depth : Nat},
    ofDiagnostics ds = .ok js → Json.itemsDepth js ≤ depth →
    ((∃ rs ds', js.mapM (draftAt names depth) = .ok rs ∧ Draft.settleAll rs = .ok ds') ∧
        ∀ k ∈ Diagnostic.kindsAll ds, Known names k) ∨
      ((∃ name, js.mapM (draftAt names depth) =
        .error (.unknownKind names.typeName (.str name))) ∧
        ∃ k ∈ Diagnostic.kindsAll ds, ¬ Known names k)
  | [], js, depth, h, _ => by
    cases h
    exact Or.inl ⟨⟨[], [], rfl, rfl⟩, fun k hk => (List.not_mem_nil hk).elim⟩
  | d :: ds, js, depth, h, hdepth => by
    obtain ⟨j, rest, hj, hrest, rfl⟩ := ofDiagnostics_cons_eq_ok_iff.mp h
    rw [Json.itemsDepth] at hdepth
    rw [List.mapM_cons, Diagnostic.kindsAll, List.forall_mem_append]
    simp only [List.mem_append, or_and_right, exists_or]
    rcases draftAt_known_or d hj (Nat.le_trans (Nat.le_max_left _ _) hdepth) with
      ⟨⟨r, d', hr, hd⟩, hk⟩ | ⟨⟨unknown, hd⟩, hk⟩
    · rcases mapM_known_or ds hrest (Nat.le_trans (Nat.le_max_right _ _) hdepth) with
        ⟨⟨rs, ds', hrs, hds⟩, hks⟩ | ⟨⟨unknown, hds⟩, hks⟩
      · exact Or.inl ⟨⟨r :: rs, d' :: ds', by rw [hr, hrs]; rfl,
          by rw [Draft.settleAll, hd, hds]; rfl⟩, hk, hks⟩
      · exact Or.inr ⟨⟨unknown, by rw [hr, hds]; rfl⟩, Or.inr hks⟩
    · exact Or.inr ⟨⟨unknown, by rw [hd]; rfl⟩, Or.inl hk⟩

end

theorem exists_unknown_iff {d : Diagnostic κ} {j : Json} (h : ofDiagnostic d = .ok j) :
    (∃ name, toDiagnostic names j = .error (.unknownKind names.typeName (.str name))) ↔
      ∃ k ∈ d.kinds, ∃ name,
        NamedKind.recordName k = .ok name ∧ names.members.lookup name = none := by
  simp only [← not_known_iff]
  have hcases : ((∃ r d', draftAt names j.depth j = .ok r ∧ r.settle = .ok d') ∧
      ∀ k ∈ d.kinds, Known names k) ∨ _ := draftAt_known_or d h (Nat.le_refl _)
  rcases hcases with ⟨⟨r, d', hr, hd⟩, hk⟩ | ⟨⟨unknown, hr⟩, hk⟩
  · have hread : toDiagnostic names j = .ok d' := bind_eq_ok_iff.mpr ⟨r, hr, hd⟩
    constructor
    · rintro ⟨name, herror⟩
      rw [hread] at herror
      cases herror
    · rintro ⟨k, hmem, hunknown⟩
      exact absurd (hk k hmem) hunknown
  · refine ⟨fun _ => hk, fun _ => ⟨unknown, ?_⟩⟩
    rw [toDiagnostic, draft, hr]
    rfl

theorem exists_members {d : Diagnostic κ} (hd : ∃ j, ofDiagnostic d = .ok j)
    (hk : ∀ k ∈ d.kinds, Known names k) : ∃ f : κ → κ', ∀ k ∈ d.kinds, ∃ name,
      NamedKind.recordName k = .ok name ∧ names.members.lookup name = some (f k) := by
  have hmember : ∀ k ∈ d.kinds, ∃ name member, NamedKind.recordName k = .ok name ∧
      names.members.lookup name = some member := by
    intro k hmem
    obtain ⟨name, hname⟩ := (exists_ofDiagnostic_iff d).mp hd k hmem
    obtain ⟨member, hmember⟩ := Option.ne_none_iff_exists'.mp (hk k hmem name hname)
    exact ⟨name, member, hname, hmember⟩
  obtain ⟨-, default, -⟩ := hmember d.kind (by cases d; exact List.mem_cons_self)
  refine ⟨fun k => ((NamedKind.recordName k).toOption.bind
    fun name => names.members.lookup name).getD default, ?_⟩
  intro k hmem
  obtain ⟨name, member, hname, hmember⟩ := hmember k hmem
  refine ⟨name, hname, ?_⟩
  simp [hname, hmember, Except.toOption]

end

/-- A diagnostic has a record unless some kind in it, or in its causes, has no name. The record is
read unless the reader lacks one of the names, and then gives the diagnostic back with the reader's
kinds and its own copy of all text. With the reader knowing the kinds themselves, record and text
give back an equal diagnostic, which has the same record. -/
theorem record_roundtrip [BEq κ] [ReflBEq κ] (d : Diagnostic κ) (names : KindNames κ')
    (own : KindNames κ) :
    ((∃ typeName, ofDiagnostic d = .error (.unnamedKind typeName)) ↔
      ∃ k ∈ d.kinds, ∃ typeName, NamedKind.recordName k = .error typeName) ∧
    (∀ j, ofDiagnostic d = .ok j →
      ((∃ name, toDiagnostic names j = .error (.unknownKind names.typeName (.str name))) ↔
        ∃ k ∈ d.kinds, ∃ name,
          NamedKind.recordName k = .ok name ∧ names.members.lookup name = none) ∧
      ((∀ k ∈ d.kinds, ∀ name, NamedKind.recordName k = .ok name →
          names.members.lookup name ≠ none) →
        ∃ f : κ → κ', (∀ k ∈ d.kinds, ∃ name, NamedKind.recordName k = .ok name ∧
            names.members.lookup name = some (f k)) ∧
          toDiagnostic names j = .ok (d.toOwned.mapKind f))) ∧
    ((∀ k ∈ d.kinds, ∃ name,
        NamedKind.recordName k = .ok name ∧ own.members.lookup name = some k) →
      ∃ j d', ofDiagnostic d = .ok j ∧ toDiagnostic own j = .ok d' ∧ (d' == d) = true ∧
        (∀ style : Json.Style, style.sortKeys = false → read own (j.print style) = .ok d') ∧
        ofDiagnostic d' = .ok j) := by
  refine ⟨exists_unnamed_iff d, ?_, ?_⟩
  · intro j hj
    refine ⟨?_, fun hk => ?_⟩
    · exact exists_unknown_iff hj
    · obtain ⟨f, hf⟩ := exists_members ⟨j, hj⟩ hk
      exact ⟨f, hf, toDiagnostic_of_members hj hf⟩
  · intro hk
    obtain ⟨j, hj⟩ := (exists_ofDiagnostic_iff d).mpr fun k hmem =>
      (hk k hmem).imp fun _ h => h.1
    have hread : toDiagnostic own j = .ok d.toOwned := by
      rw [toDiagnostic_of_members (f := id) hj hk, Diagnostic.mapKind_id]
    refine ⟨j, d.toOwned, hj, hread, Diagnostic.same_toOwned d, ?_, ?_⟩
    · intro style hstyle
      rw [read, load, Json.read?_print hstyle (plain_ofDiagnostic d hj)]
      exact hread
    · rw [ofDiagnostic_toOwned, hj]

def unusedName : Diagnostic Severity :=
  { kind := .warning, title := "unused name".toList, suggestions := [['_']]
    causes := [{ kind := .error, details := "say \"_\"\n".toList
                 excerpts := [{ lineNumber := some (-7)
                                text := .borrowed ⟨"let x = 1".toList, 4, 9, by decide, by decide⟩
                                highlights := [⟨0, 0, unbounded, some ['\x00', 'é']⟩] }] }] }

theorem record_roundtrip_unusedName :
    (∀ k ∈ unusedName.kinds, ∃ name,
      NamedKind.recordName k = .ok name ∧ Severity.names.members.lookup name = some k) ∧
    ∃ j d', ofDiagnostic unusedName = .ok j ∧ toDiagnostic Severity.names j = .ok d' ∧
      (d' == unusedName) = true ∧
      read Severity.names (j.print { indent := some 2 }) = .ok d' ∧ ofDiagnostic d' = .ok j ∧
      ∃ name, toDiagnostic (⟨"Fatal".toList, [("FATAL".toList, ())]⟩ : KindNames Unit) j =
        .error (.unknownKind "Fatal".toList (.str name)) := by
  have hk : ∀ k ∈ unusedName.kinds, ∃ name,
      NamedKind.recordName k = .ok name ∧ Severity.names.members.lookup name = some k := by
    rintro (_ | _) _
    · exact ⟨_, rfl, rfl⟩
    · exact ⟨_, rfl, rfl⟩
  obtain ⟨-, hread, hown⟩ := record_roundtrip unusedName
    (⟨"Fatal".toList, [("FATAL".toList, ())]⟩ : KindNames Unit) Severity.names
  obtain ⟨j, d', hj, hd, hsame, htext, hagain⟩ := hown hk
  have hunknown := (hread j hj).1.mpr ⟨.warning, List.mem_cons_self, _, rfl, rfl⟩
  exact ⟨hk, j, d', hj, hd, hsame, htext _ rfl, hagain, hunknown⟩

end Record

end SourceReport

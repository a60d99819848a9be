import Mathlib
import SourceReport.Proofs.Record.Roundtrip

namespace SourceReport

namespace Json

theorem depth_pos (j : Json) : 0 < j.depth := by
  cases j <;> simp only [depth] <;> omega

theorem depth_le_itemsDepth {items : List Json} {item : Json} (h : item ∈ items) :
    item.depth ≤ itemsDepth items := by
  induction items with
  | nil => cases h
  | cons first rest ih =>
    rw [itemsDepth]
    rcases List.mem_cons.mp h with rfl | h
    · exact Nat.le_max_left _ _
    · exact Nat.le_trans (ih h) (Nat.le_max_right _ _)

theorem depth_le_fieldsDepth {fields : List (List Char × Json)} {name : List Char} {value : Json}
    (h : fields.lookup name = some value) : value.depth ≤ fieldsDepth fields := by
  induction fields with
  | nil => cases h
  | cons field rest ih =>
    obtain ⟨n, v⟩ := field
    rw [fieldsDepth]
    rw [List.lookup_cons] at h
    split at h
    · obtain rfl := Option.some.inj h
      exact Nat.le_max_left _ _
    · exact Nat.le_trans (ih h) (Nat.le_max_right _ _)

theorem depth_lt_of_field? {j value : Json} {name : List Char} (h : j.field? name = some value) :
    value.depth < j.depth := by
  cases j with
  | obj fields =>
    have := depth_le_fieldsDepth h
    rw [depth]
    omega
  | _ => cases h

end Json

namespace Record
open Json

theorem depth_le_of_mem_toItems {j item : Json} {items : List Json} (h : toItems j = .ok items)
    (hi : item ∈ items) : item.depth ≤ j.depth := by
  have hpos := j.depth_pos
  cases j with
  | arr values =>
    obtain rfl := Except.ok.inj h
    have := depth_le_itemsDepth hi
    rw [depth]
    omega
  | obj fields =>
    obtain rfl := Except.ok.inj h
    obtain ⟨field, -, rfl⟩ := List.mem_map.mp hi
    exact hpos
  | str s =>
    obtain rfl := Except.ok.inj h
    obtain ⟨c, -, rfl⟩ := List.mem_map.mp hi
    exact hpos
  | _ => cases h

theorem depth_lt_of_mem_itemsIn {j item : Json} {name : String} {items : List Json}
    (h : itemsIn j name = .ok items) (hi : item ∈ items) : item.depth < j.depth := by
  unfold itemsIn at h
  split at h
  · obtain rfl := Except.ok.inj h
    cases hi
  · rename_i value hvalue
    exact Nat.lt_of_le_of_lt (depth_le_of_mem_toItems h hi) (depth_lt_of_field? hvalue)

def FailsAs {α : Type} (IsError : DecodeError → Prop) (x : Result α) : Prop :=
  ∀ e, x = .error e → IsError e

section
variable {α β : Type} {IsError : DecodeError → Prop}

theorem failsAs_ok {a : α} : FailsAs IsError (.ok a) := by
  rintro e ⟨⟩

theorem failsAs_error {e : DecodeError} (h : IsError e) : FailsAs IsError (.error e : Result α) := by
  rintro e ⟨⟩
  exact h

theorem FailsAs.bind {x : Result α} {f : α → Result β} (hx : FailsAs IsError x)
    (hf : ∀ a, x = .ok a → FailsAs IsError (f a)) : FailsAs IsError (x >>= f) := by
  cases x with
  | error e =>
    rintro e ⟨⟩
    exact hx _ rfl
  | ok a => exact hf a rfl

theorem failsAs_mapM {f : α → Result β} {xs : List α} (h : ∀ x ∈ xs, FailsAs IsError (f x)) :
    FailsAs IsError (xs.mapM f) := by
  induction xs with
  | nil => exact failsAs_ok
  | cons x xs ih =>
    obtain ⟨hx, hxs⟩ := List.forall_mem_cons.mp h
    rw [List.mapM_cons]
    exact hx.bind fun _ _ => (ih hxs).bind fun _ _ => failsAs_ok

end

def IsObject : Json → Prop
  | .obj _ => True
  | _ => False

def placeNames : List String := ["line", "offset", "length"]

def HasPlace (j : Json) : Prop := ∀ name ∈ placeNames, (j.field? name.toList).isSome

variable {κ : Type}

def Names (names : KindNames κ) (j : Json) : Prop :=
  ∃ name kind, j = .str name ∧ names.members.lookup name = some kind

/-- Whether a value is an object that can be the record of an excerpt, with highlights as asked. -/
def ShapedExcerpt (IsHighlight : Json → Prop) (j : Json) : Prop :=
  IsObject j ∧ ∃ highlights, itemsIn j "highlights" = .ok highlights ∧
    ∀ h ∈ highlights, IsHighlight h

/-- Whether a value is an object that can be the record of a diagnostic, with a kind and highlights
as asked: what stands in its fields has parts where parts are asked for, and its causes are such
objects themselves. -/
inductive Shaped (IsKind IsHighlight : Json → Prop) : Json → Prop
  | record {j : Json} {suggestions excerpts causes : List Json} (object : IsObject j)
      (kind : IsKind ((j.field? "kind".toList).getD .null))
      (suggestions_eq : itemsIn j "suggestions" = .ok suggestions)
      (excerpts_eq : itemsIn j "contexts" = .ok excerpts)
      (excerpts_shaped : ∀ e ∈ excerpts, ShapedExcerpt IsHighlight e)
      (causes_eq : itemsIn j "underlying" = .ok causes)
      (causes_shaped : ∀ c ∈ causes, Shaped IsKind IsHighlight c) : Shaped IsKind IsHighlight j

/-- The errors that say what is amiss with a record: the text is no JSON, a kind is no member's
name, or a highlight lacks part of its place. -/
inductive DecodeError.Tells (names : KindNames κ) : DecodeError → Prop
  | notJson : Tells names .notJson
  | unknownKind {kind : Json} (h : kind.isContainer = false) :
    Tells names (.unknownKind names.typeName kind)
  | missingField {name : String} (h : name ∈ placeNames) : Tells names (.missingField name.toList)

variable {names : KindNames κ}

theorem exists_required_iff {j : Json} {name : String} :
    (∃ value, required j name = .ok value) ↔ (j.field? name.toList).isSome := by
  unfold required
  cases j.field? name.toList with
  | none => exact ⟨by rintro ⟨_, ⟨⟩⟩, by rintro ⟨⟩⟩
  | some value => exact ⟨fun _ => rfl, fun _ => ⟨value, rfl⟩⟩

theorem failsAs_required {j : Json} {name : String} (h : name ∈ placeNames) :
    FailsAs (DecodeError.Tells names) (required j name) := by
  unfold required
  split
  · exact failsAs_error (.missingField h)
  · exact failsAs_ok

theorem exists_draftHighlight_iff {j : Json} :
    (∃ r, draftHighlight j = .ok r) ↔ HasPlace j := by
  have hplace : HasPlace j ↔ (∃ line, required j "line" = .ok line) ∧
      (∃ offset, required j "offset" = .ok offset) ∧
      ∃ length, required j "length" = .ok length := by
    simp [HasPlace, placeNames, exists_required_iff]
  rw [hplace]
  cases j with
  | obj fields =>
    simp only [draftHighlight, bind_eq_ok_iff]
    constructor
    · rintro ⟨_, line, hline, offset, hoffset, length, hlength, -⟩
      exact ⟨⟨line, hline⟩, ⟨offset, hoffset⟩, length, hlength⟩
    · rintro ⟨⟨line, hline⟩, ⟨offset, hoffset⟩, length, hlength⟩
      exact ⟨_, line, hline, offset, hoffset, length, hlength, rfl⟩
  | _ => exact ⟨by rintro ⟨_, ⟨⟩⟩, by rintro ⟨⟨_, ⟨⟩⟩, _⟩⟩

theorem failsAs_draftHighlight {j : Json} (h : IsObject j) :
    FailsAs (DecodeError.Tells names) (draftHighlight j) := by
  cases j with
  | obj fields =>
    refine (failsAs_required (by decide)).bind fun line _ => ?_
    refine (failsAs_required (by decide)).bind fun offset _ => ?_
    exact (failsAs_required (by decide)).bind fun length _ => failsAs_ok
  | _ => exact h.elim

theorem exists_draftExcerpt_iff {j : Json} :
    (∃ r, draftExcerpt j = .ok r) ↔ ShapedExcerpt HasPlace j := by
  cases j with
  | obj fields =>
    simp only [draftExcerpt, bind_eq_ok_iff, ShapedExcerpt, ← exists_draftHighlight_iff,
      ← exists_mapM_eq_ok_iff]
    constructor
    · rintro ⟨_, highlights, hitems, drafts, hdrafts, -⟩
      exact ⟨trivial, highlights, hitems, drafts, hdrafts⟩
    · rintro ⟨-, highlights, hitems, drafts, hdrafts⟩
      exact ⟨_, highlights, hitems, drafts, hdrafts, rfl⟩
  | _ => exact ⟨by rintro ⟨_, ⟨⟩⟩, fun h => h.1.elim⟩

theorem failsAs_draftExcerpt {j : Json} (h : ShapedExcerpt IsObject j) :
    FailsAs (DecodeError.Tells names) (draftExcerpt j) := by
  obtain ⟨hobject, highlights, hitems, hhighlights⟩ := h
  cases j with
  | obj fields =>
    rw [draftExcerpt, hitems]
    exact (failsAs_mapM fun h hmem => failsAs_draftHighlight (hhighlights h hmem)).bind
      fun _ _ => failsAs_ok
  | _ => exact hobject.elim

theorem exists_toKind_iff {j : Json} : (∃ kind, toKind names j = .ok kind) ↔
    IsObject j ∧ Names names ((j.field? "kind".toList).getD .null) := by
  cases j with
  | obj fields =>
    unfold toKind
    generalize ((Json.obj fields).field? "kind".toList).getD .null = named
    dsimp only
    cases named with
    | str name =>
      simp only [isContainer, Bool.false_eq_true, if_false]
      cases hmember : names.members.lookup name with
      | none =>
        refine ⟨by rintro ⟨_, ⟨⟩⟩, ?_⟩
        rintro ⟨-, _, kind, ⟨⟩, hkind⟩
        rw [hmember] at hkind
        cases hkind
      | some kind => exact ⟨fun _ => ⟨trivial, name, kind, rfl, hmember⟩, fun _ => ⟨kind, rfl⟩⟩
    | _ => exact ⟨by rintro ⟨_, ⟨⟩⟩, by rintro ⟨-, _, _, ⟨⟩, _⟩⟩
  | _ => exact ⟨by rintro ⟨_, ⟨⟩⟩, fun h => h.1.elim⟩

theorem failsAs_toKind {j : Json} (hobject : IsObject j)
    (hkind : ((j.field? "kind".toList).getD .null).isContainer = false) :
    FailsAs (DecodeError.Tells names) (toKind names j) := by
  cases j with
  | obj fields =>
    unfold toKind
    dsimp only
    rw [hkind, if_neg (by decide)]
    split
    · split
      · exact failsAs_ok
      · exact failsAs_error (.unknownKind hkind)
    · exact failsAs_error (.unknownKind hkind)
  | _ => exact hobject.elim

-- By induction on the depth: the causes are less deep than the record they are in.
theorem exists_draftAt_iff {depth : Nat} {j : Json} (h : j.depth ≤ depth) :
    (∃ r, draftAt names depth j = .ok r) ↔ Shaped (Names names) HasPlace j := by
  induction depth generalizing j with
  | zero => exact absurd j.depth_pos (Nat.not_lt_of_le h)
  | succ depth ih =>
    have hcauses {causes : List Json} (hitems : itemsIn j "underlying" = .ok causes) :
        (∃ rs, causes.mapM (draftAt names depth) = .ok rs) ↔
          ∀ c ∈ causes, Shaped (Names names) HasPlace c := by
      rw [exists_mapM_eq_ok_iff]
      refine forall₂_congr fun c hc => ih ?_
      exact Nat.le_of_lt_succ (Nat.lt_of_lt_of_le (depth_lt_of_mem_itemsIn hitems hc) h)
    simp only [draftAt, bind_eq_ok_iff]
    constructor
    · rintro ⟨_, kind, hkind, suggestions, hsuggestions, excerpts, hexcerpts, es, hes, causes,
        hitems, rs, hrs, -⟩
      obtain ⟨hobject, hnamed⟩ := exists_toKind_iff.mp ⟨kind, hkind⟩
      refine .record hobject hnamed hsuggestions hexcerpts ?_ hitems ((hcauses hitems).mp ⟨rs, hrs⟩)
      intro e he
      exact exists_draftExcerpt_iff.mp (exists_mapM_eq_ok_iff.mp ⟨es, hes⟩ e he)
    · rintro ⟨hobject, hnamed, hsuggestions, hexcerpts, hshaped, hitems, hbelow⟩
      obtain ⟨kind, hkind⟩ := exists_toKind_iff.mpr ⟨hobject, hnamed⟩
      obtain ⟨es, hes⟩ := exists_mapM_eq_ok_iff.mpr
        fun e he => exists_draftExcerpt_iff.mpr (hshaped e he)
      obtain ⟨rs, hrs⟩ := (hcauses hitems).mpr hbelow
      exact ⟨_, kind, hkind, _, hsuggestions, _, hexcerpts, es, hes, _, hitems, rs, hrs, rfl⟩

theorem failsAs_draftAt {j : Json}
    (hj : Shaped (fun kind => kind.isContainer = false) IsObject j) {depth : Nat}
    (h : j.depth ≤ depth) : FailsAs (DecodeError.Tells names) (draftAt names depth j) := by
  induction hj generalizing depth with
  | @record j _ _ causes hobject hkind hsuggestions hexcerpts hshaped hitems _ ih =>
    cases depth with
    | zero => exact absurd j.depth_pos (Nat.not_lt_of_le h)
    | succ depth =>
      have hbelow : ∀ c ∈ causes, FailsAs (DecodeError.Tells names) (draftAt names depth c) :=
        fun c hc => ih c hc
          (Nat.le_of_lt_succ (Nat.lt_of_lt_of_le (depth_lt_of_mem_itemsIn hitems hc) h))
      rw [draftAt, hsuggestions, hexcerpts, hitems]
      refine (failsAs_toKind hobject hkind).bind fun kind _ => ?_
      refine (failsAs_mapM fun e he => failsAs_draftExcerpt (hshaped e he)).bind fun es _ => ?_
      exact (failsAs_mapM hbelow).bind fun rs _ => failsAs_ok

/-- A text that is no JSON is told so. Any other loads if and only if it has the form of a record in
which every kind is a member's name and every highlight has its place. If it has the form as far as
that may be any kind without parts, and any object as a highlight, it loads or what is amiss is
told. -/
theorem load_shaped (names : KindNames κ) (text : List Char) :
    (Json.read? text = none → load names text = .error .notJson) ∧
    ∀ j, Json.read? text = some j →
      ((∃ r, load names text = .ok r) ↔ Shaped (Names names) HasPlace j) ∧
      (Shaped (fun kind => kind.isContainer = false) IsObject j →
        (∃ r, load names text = .ok r) ∨
          ∃ e, load names text = .error e ∧ DecodeError.Tells names e) := by
  constructor
  · intro h
    rw [load, h]
  · intro j h
    have hload : load names text = draftAt names j.depth j := by
      rw [load, h]
      rfl
    rw [hload]
    refine ⟨exists_draftAt_iff (Nat.le_refl _), fun hj => ?_⟩
    cases hresult : draftAt names j.depth j with
    | ok r => exact .inl ⟨r, rfl⟩
    | error e => exact .inr ⟨e, rfl, failsAs_draftAt hj (Nat.le_refl _) e hresult⟩

def partialRecord : Json :=
  .obj [("kind".toList, .str "ERROR".toList), ("version".toList, .num 5), ("contexts".toList,
    .arr [.obj [("highlights".toList, .arr [.obj [("line".toList, .num 0)]])]])]

def partialText : List Char :=
  "\x7b\"kind\":\"ERROR\",\"version\":5,\"contexts\":[\x7b\"highlights\":".toList ++
    "[\x7b\"line\":0\x7d]\x7d]\x7d".toList

theorem load_shaped_partialText :
    Json.read? partialText = some partialRecord ∧
    Shaped (fun kind => kind.isContainer = false) IsObject partialRecord ∧
    ((∃ r, load Severity.names partialText = .ok r) ∨
      ∃ e, load Severity.names partialText = .error e ∧ DecodeError.Tells Severity.names e) := by
  have hread : Json.read? partialText = some partialRecord := by cbv
  have hshaped : Shaped (fun kind => kind.isContainer = false) IsObject partialRecord :=
    .record trivial rfl rfl rfl (List.forall_mem_singleton.mpr
      ⟨trivial, _, rfl, List.forall_mem_singleton.mpr trivial⟩) rfl (fun _ hc => by cases hc)
  exact ⟨hread, hshaped, ((load_shaped Severity.names partialText).2 _ hread).2 hshaped⟩

/-- A kind that is a list is not told to be no member's name, as a number is. -/
theorem load_listAsKind :
    ¬ ∀ text : List Char, (∃ r, load Severity.names text = .ok r) ∨
      ∃ e, load Severity.names text = .error e ∧ DecodeError.Tells Severity.names e := by
  intro h
  have hread : Json.read? "\x7b\"kind\": []\x7d".toList =
      some (.obj [("kind".toList, .arr [])]) := by cbv
  have hload : load Severity.names "\x7b\"kind\": []\x7d".toList = .error .wrongType := by
    rw [load, hread]
    rfl
  rcases h "\x7b\"kind\": []\x7d".toList with ⟨r, hr⟩ | ⟨e, he, htells⟩
  · rw [hload] at hr
    cases hr
  · obtain rfl := Except.error.inj (hload.symm.trans he)
    cases htells

end Record

end SourceReport

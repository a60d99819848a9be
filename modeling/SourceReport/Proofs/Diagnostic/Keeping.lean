import SourceReport.Markup.Diagnostic
import SourceReport.Proofs.Diagnostic.Nodes
import SourceReport.Proofs.Record.Roundtrip
import SourceReport.Collector
import SourceReport.Text.Slice
import Mathlib.Data.List.Forall2

namespace SourceReport
open Text

theorem forall₂_iff_map_eq {α β : Type} {f : α → β} {R : α → α → Prop}
    (h : ∀ a b, R a b ↔ f a = f b) (as bs : List α) :
    List.Forall₂ R as bs ↔ as.map f = bs.map f := by
  rw [← List.forall₂_eq_eq_eq, List.forall₂_map_left_iff, List.forall₂_map_right_iff]
  constructor
  · exact fun hr => hr.imp fun a b => (h a b).mp
  · exact fun hf => hf.imp fun a b => (h a b).mpr

/-- What takes no notice of a copy takes none of what has the same copy. -/
theorem congr_copy {α β : Type} {copy : α → α} {f : α → β} (hf : ∀ a, f (copy a) = f a) {a b : α}
    (h : copy a = copy b) : f a = f b :=
  calc
    f a = f (copy a) := (hf a).symm
    _ = f (copy b) := congrArg f h
    _ = f b := hf b

namespace Text

theorem Passage.isEmpty_toOwned (p : Passage) : p.toOwned.isEmpty = p.isEmpty := by
  rw [Passage.isEmpty, Passage.isEmpty, ← Passage.length_content p]
  rfl

theorem drop_take_max {α : Type} (l : List α) (a b : Nat) :
    (l.take (max a b)).drop a = (l.take b).drop a := by
  rcases Nat.le_total a b with h | h
  · rw [Nat.max_eq_right h]
  · rw [Nat.max_eq_left h, List.drop_take, List.drop_take, Nat.sub_self,
      Nat.sub_eq_zero_of_le h]

theorem Window.content_clamp (buffer : List Char) (start : Int) (stop : Option Int) :
    (Window.clamp buffer start stop).content =
      slice buffer (max 0 (min start buffer.length))
        (max 0 (min (stop.getD buffer.length) buffer.length)) := by
  have hstart : min (startWithin buffer.length start) buffer.length =
      startWithin buffer.length start := Nat.min_eq_left (startWithin_le buffer.length start)
  rw [slice, resolve_of_nonneg (Int.le_max_left _ _), resolve_of_nonneg (Int.le_max_left _ _)]
  change (buffer.take (stopWithin _ _ stop)).drop _ = (buffer.take _).drop (min (startWithin _ _) _)
  rw [hstart]
  cases stop with
  | none =>
    have hall : min (max 0 (min (buffer.length : Int) buffer.length)).toNat buffer.length =
        buffer.length := by omega
    simp only [stopWithin, Option.getD_none, hall]
    rfl
  | some stop =>
    have hstop : min (max 0 (min stop buffer.length)).toNat buffer.length =
        (min stop buffer.length).toNat := by omega
    simp only [stopWithin, Option.getD_some, hstop]
    exact drop_take_max _ _ _

end Text

namespace Excerpt

/-- Whether two excerpts are the same but for where they keep their text. -/
def SameText (a b : Excerpt) : Prop :=
  a.text.content = b.text.content ∧ b = { a with text := b.text }

theorem sameText_iff (a b : Excerpt) : a.SameText b ↔ a.toOwned = b.toOwned := by
  obtain ⟨source, lineNumber, firstLineOffset, text, highlights⟩ := a
  obtain ⟨source', lineNumber', firstLineOffset', text', highlights'⟩ := b
  rw [SameText, toOwned, toOwned, Passage.toOwned, Passage.toOwned, Excerpt.mk.injEq,
    Excerpt.mk.injEq, Passage.owned.injEq]
  constructor
  · rintro ⟨htext, rfl, rfl, rfl, -, rfl⟩
    exact ⟨rfl, rfl, rfl, htext, rfl⟩
  · rintro ⟨rfl, rfl, rfl, htext, rfl⟩
    exact ⟨htext, rfl, rfl, rfl, rfl, rfl⟩

theorem toOwned_beq (a b : Excerpt) : (a.toOwned == b.toOwned) = (a == b) := rfl

end Excerpt

namespace Frame

theorem excerptLines_toOwned (l : Layout) (role : Role) (note : Option (List Char)) (e : Excerpt) :
    excerptLines l role note e.toOwned = excerptLines l role note e := by
  have hbody : body l e.toOwned = body l e := rfl
  have htext : e.toOwned.text.isEmpty = e.text.isEmpty := e.text.isEmpty_toOwned
  rw [excerptLines, excerptLines, Excerpt.isEmpty_toOwned, htext, hbody]
  rfl

theorem sharedLines_toOwned (l : Layout) (note : Option (List Char)) (count index : Nat)
    (es : List Excerpt) :
    sharedLines l note count index (es.map Excerpt.toOwned) =
      sharedLines l note count index es := by
  induction es generalizing index with
  | nil => rfl
  | cons e es ih =>
    have htext : e.toOwned.text.isEmpty = e.text.isEmpty := e.text.isEmpty_toOwned
    rw [List.map_cons, sharedLines, sharedLines, htext]
    simp only [excerptLines_toOwned, ih]

theorem framed_toOwned (es : List Excerpt) :
    framed (es.map Excerpt.toOwned) = (framed es).map Excerpt.toOwned := by
  rw [framed, framed, List.filter_map]
  refine congrArg (List.map _) (List.filter_congr fun e _ => ?_)
  exact congrArg (!·) e.text.isEmpty_toOwned

theorem sharedLayout_toOwned (options : Options) (es : List Excerpt) :
    sharedLayout options (es.map Excerpt.toOwned) = sharedLayout options es := by
  rw [sharedLayout, sharedLayout, sharedMargin, sharedMargin, framed_toOwned, List.map_map]
  rfl

end Frame

open SourceReport.Frame in
theorem Excerpt.sharedDrawnLines_toOwned (es : List Excerpt) (note : Option (List Char))
    (options : Options) :
    sharedDrawnLines (es.map toOwned) note options = sharedDrawnLines es note options := by
  rw [sharedDrawnLines, sharedDrawnLines, blockLines, blockLines, sharedLayout_toOwned,
    framed_toOwned, List.length_map, sharedLines_toOwned]

open SourceReport.Frame in
theorem Excerpt.drawnLines_toOwned (e : Excerpt) (note : Option (List Char))
    (placement : Placement) (options : Options) :
    e.toOwned.drawnLines note placement options = e.drawnLines note placement options := by
  rw [drawnLines, drawnLines, margin_toOwned, excerptLines_toOwned]

theorem Markup.excerptNodes_toOwned (options : Options) (e : Excerpt) :
    excerptNodes options e.toOwned = excerptNodes options e := by
  have htext : e.toOwned.text.isEmpty = e.text.isEmpty := e.text.isEmpty_toOwned
  rw [excerptNodes, excerptNodes, Excerpt.isEmpty_toOwned, htext]
  rfl

theorem Excerpt.toHtml_toOwned (e : Excerpt) (options : Options) :
    e.toOwned.toHtml options = e.toHtml options := by
  rw [toHtml, toHtml, Markup.excerptNodes_toOwned]

namespace Diagnostic
variable {κ σ : Type}

mutual

/-- Whether two diagnostics are the same but for where they and their causes keep texts. -/
def SameText : Diagnostic κ → Diagnostic κ → Prop
  | ⟨k, t, d, s, v, e, c⟩, ⟨k', t', d', s', v', e', c'⟩ =>
    (k = k' ∧ t = t' ∧ d = d' ∧ s = s' ∧ v = v') ∧ List.Forall₂ Excerpt.SameText e e' ∧
      SameTextAll c c'

def SameTextAll : List (Diagnostic κ) → List (Diagnostic κ) → Prop
  | [], [] => True
  | d :: ds, d' :: ds' => SameText d d' ∧ SameTextAll ds ds'
  | _, _ => False

end

mutual

theorem sameText_iff : ∀ a b : Diagnostic κ, SameText a b ↔ a.toOwned = b.toOwned
  | ⟨_, _, _, _, _, _, causes⟩, ⟨_, _, _, _, _, _, causes'⟩ => by
    rw [SameText, toOwned, toOwned, Diagnostic.mk.injEq, forall₂_iff_map_eq Excerpt.sameText_iff,
      sameTextAll_iff causes causes']
    simp only [and_assoc]

theorem sameTextAll_iff :
    ∀ as bs : List (Diagnostic κ), SameTextAll as bs ↔ toOwnedAll as = toOwnedAll bs
  | [], [] => by simp only [SameTextAll, toOwnedAll]
  | [], _ :: _ => by simp [SameTextAll, toOwnedAll]
  | _ :: _, [] => by simp [SameTextAll, toOwnedAll]
  | a :: as, b :: bs => by
    rw [SameTextAll, toOwnedAll, toOwnedAll, List.cons.injEq, sameText_iff a b,
      sameTextAll_iff as bs]

end

section
variable [BEq κ]

theorem map_toOwned_beq (es es' : List Excerpt) :
    (es.map Excerpt.toOwned == es'.map Excerpt.toOwned) = (es == es') := by
  induction es generalizing es' with
  | nil => cases es' <;> rfl
  | cons e es ih =>
    cases es' with
    | nil => rfl
    | cons e' es' =>
      rw [List.map_cons, List.map_cons, List.cons_beq_cons, List.cons_beq_cons, ih,
        Excerpt.toOwned_beq]

mutual

theorem same_toOwned_toOwned : ∀ a b : Diagnostic κ, same a.toOwned b.toOwned = same a b
  | ⟨_, _, _, _, _, excerpts, causes⟩, ⟨_, _, _, _, _, excerpts', causes'⟩ => by
    rw [toOwned, toOwned, same, same, map_toOwned_beq excerpts excerpts',
      sameAll_toOwnedAll_toOwnedAll causes causes']

theorem sameAll_toOwnedAll_toOwnedAll :
    ∀ as bs : List (Diagnostic κ), sameAll (toOwnedAll as) (toOwnedAll bs) = sameAll as bs
  | [], [] => rfl
  | [], _ :: _ => rfl
  | _ :: _, [] => rfl
  | a :: as, b :: bs => by
    rw [toOwnedAll, toOwnedAll, sameAll, sameAll, same_toOwned_toOwned a b,
      sameAll_toOwnedAll_toOwnedAll as bs]

end

theorem couldMerge_toOwned (a b : Diagnostic κ) :
    a.toOwned.couldMerge b.toOwned = a.couldMerge b := by
  have hbare : ∀ d : Diagnostic κ,
      { d.toOwned with excerpts := [] } = { d with excerpts := [] }.toOwned := by
    intro d
    cases d
    rfl
  rw [couldMerge_eq_same, couldMerge_eq_same, hbare, hbare, same_toOwned_toOwned]

theorem beq_of_toOwned_eq [ReflBEq κ] {a b : Diagnostic κ} (h : a.toOwned = b.toOwned) :
    (a == b) = true := by
  change same a b = true
  rw [← same_toOwned_toOwned, h]
  exact same_refl b.toOwned

theorem beq_of_map_toOwned_eq [ReflBEq κ] {as bs : List (Diagnostic κ)}
    (h : as.map toOwned = bs.map toOwned) : (as == bs) = true := by
  induction as generalizing bs with
  | nil => cases bs with
    | nil => rfl
    | cons b bs => cases h
  | cons a as ih => cases bs with
    | nil => cases h
    | cons b bs =>
      rw [List.map_cons, List.map_cons, List.cons.injEq] at h
      rw [List.cons_beq_cons, beq_of_toOwned_eq h.1, ih h.2, Bool.and_true]

variable [Kind κ σ]

theorem accepts_toOwned (settings : Option σ) (a b : Diagnostic κ) :
    a.toOwned.accepts settings b.toOwned = a.accepts settings b := by
  have hkind : a.toOwned.kind = a.kind := by
    cases a
    rfl
  rw [accepts, accepts, hkind, couldMerge_toOwned]

omit [BEq κ] in
theorem addExcerpts_toOwned (a b : Diagnostic κ) :
    a.toOwned.addExcerpts b.toOwned.excerpts = (a.addExcerpts b.excerpts).toOwned := by
  cases a
  cases b
  simp only [addExcerpts, toOwned, List.map_append]

theorem combine_toOwned (settings : Option σ) (collected : List (Diagnostic κ))
    (d : Diagnostic κ) :
    combine settings (collected.map toOwned) d.toOwned =
      (combine settings collected d).map toOwned := by
  induction collected with
  | nil => rfl
  | cons head rest ih =>
    rw [List.map_cons, combine, combine, accepts_toOwned]
    split
    · rw [List.map_cons, addExcerpts_toOwned]
    · rw [List.map_cons, ih]

theorem foldl_combine_toOwned (settings : Option σ) (collected ds : List (Diagnostic κ)) :
    (ds.map toOwned).foldl (combine settings) (collected.map toOwned) =
      (ds.foldl (combine settings) collected).map toOwned := by
  induction ds generalizing collected with
  | nil => rfl
  | cons d ds ih => rw [List.map_cons, List.foldl_cons, List.foldl_cons, combine_toOwned, ih]

end

section
variable [Kind κ σ] (settings : Option σ) (options : Options)

mutual

theorem render_toOwned : ∀ d : Diagnostic κ,
    d.toOwned.render settings options = d.render settings options
  | ⟨_, _, _, _, _, excerpts, causes⟩ => by
    rw [toOwned, render, render, renderAll_toOwnedAll causes, ownLines, ownLines,
      Excerpt.sharedDrawnLines_toOwned, toOwnedAll_eq_map, List.length_map, List.isEmpty_map]
    rfl

theorem renderAll_toOwnedAll : ∀ ds : List (Diagnostic κ),
    renderAll settings options (toOwnedAll ds) = renderAll settings options ds
  | [] => rfl
  | d :: ds => by
    rw [toOwnedAll, renderAll, renderAll, render_toOwned d, renderAll_toOwnedAll ds,
      toOwnedAll_eq_map, List.isEmpty_map]

end

mutual

theorem diagnosticNode_toOwned : ∀ d : Diagnostic κ,
    Markup.diagnosticNode settings options d.toOwned = Markup.diagnosticNode settings options d
  | ⟨_, _, _, _, _, excerpts, causes⟩ => by
    rw [toOwned, Markup.diagnosticNode, Markup.diagnosticNode, causeItems_toOwnedAll causes,
      Markup.ownNodes, Markup.ownNodes, List.flatMap_map]
    simp only [Markup.excerptNodes_toOwned]
    rfl

theorem causeItems_toOwnedAll : ∀ ds : List (Diagnostic κ),
    Markup.causeItems settings options (toOwnedAll ds) = Markup.causeItems settings options ds
  | [] => rfl
  | d :: ds => by
    rw [toOwnedAll, Markup.causeItems, Markup.causeItems, diagnosticNode_toOwned d,
      causeItems_toOwnedAll ds]

end

theorem toHtml_toOwned (d : Diagnostic κ) :
    d.toOwned.toHtml settings options = d.toHtml settings options := by
  rw [toHtml, toHtml, diagnosticNode_toOwned]

end

end Diagnostic

/-- No question about excerpts tells the two apart. -/
structure Excerpt.Interchangeable (a b : Excerpt) : Prop where
  beq : (a == b) = true
  isEmpty : a.isEmpty = b.isEmpty
  logicalLines : a.logicalLines = b.logicalLines
  margin : a.margin = b.margin
  locator : a.locator = b.locator
  drawnLines : ∀ (note : Option (List Char)) (placement : Frame.Placement) (options : Options),
    a.drawnLines note placement options = b.drawnLines note placement options
  toHtml : ∀ options : Options, a.toHtml options = b.toHtml options

theorem Excerpt.interchangeable_of_toOwned_eq {a b : Excerpt} (h : a.toOwned = b.toOwned) :
    a.Interchangeable b where
  beq := by
    rw [← toOwned_beq, h]
    exact BEq.rfl
  isEmpty := congr_copy isEmpty_toOwned h
  logicalLines := congr_copy logicalLines_toOwned h
  margin := congr_copy margin_toOwned h
  locator := congr_copy locator_toOwned h
  drawnLines note placement options :=
    congr_copy (f := fun e => e.drawnLines note placement options)
      (drawnLines_toOwned · note placement options) h
  toHtml options := congr_copy (f := fun e => e.toHtml options) (toHtml_toOwned · options) h

namespace Diagnostic
variable {κ σ : Type} [Kind κ σ] [BEq κ] [NamedKind κ]

/-- No question about diagnostics tells the two apart. -/
structure Interchangeable (a b : Diagnostic κ) : Prop where
  beq : (a == b) = true
  couldMerge_left : ∀ other : Diagnostic κ, a.couldMerge other = b.couldMerge other
  couldMerge_right : ∀ other : Diagnostic κ, other.couldMerge a = other.couldMerge b
  allExcerpts : List.Forall₂ Excerpt.Interchangeable a.allExcerpts b.allExcerpts
  render : ∀ (settings : Option σ) (options : Options),
    a.render settings options = b.render settings options
  toHtml : ∀ (settings : Option σ) (options : Options),
    a.toHtml settings options = b.toHtml settings options
  record : Record.ofDiagnostic a = Record.ofDiagnostic b

theorem interchangeable_of_toOwned_eq [ReflBEq κ] {a b : Diagnostic κ}
    (h : a.toOwned = b.toOwned) : Interchangeable a b where
  beq := beq_of_toOwned_eq h
  couldMerge_left other := by rw [← couldMerge_toOwned, h, couldMerge_toOwned]
  couldMerge_right other := by rw [← couldMerge_toOwned, h, couldMerge_toOwned]
  allExcerpts := by
    have hmap : a.allExcerpts.map Excerpt.toOwned = b.allExcerpts.map Excerpt.toOwned := by
      rw [← allExcerpts_toOwned, h, allExcerpts_toOwned]
    have hsame := (forall₂_iff_map_eq (fun _ _ => Iff.rfl) _ _).mpr hmap
    exact hsame.imp fun _ _ => Excerpt.interchangeable_of_toOwned_eq
  render settings options := congr_copy (render_toOwned settings options) h
  toHtml settings options :=
    congr_copy (f := fun d => d.toHtml settings options) (toHtml_toOwned settings options) h
  record := congr_copy Record.ofDiagnostic_toOwned h

/-- Diagnostics that differ in nothing but where their texts are kept are interchangeable, as a
diagnostic and the one with its own copy of all text; collected in place of each other they give
equal lists. A window into a buffer, of which the length is known without the text, has the length
of its text: what lies between its bounds, each held inside the buffer. -/
theorem interchangeable_of_sameText [ReflBEq κ] :
    (∀ a b : Diagnostic κ, a.SameText b → a.Interchangeable b) ∧
    (∀ d : Diagnostic κ, d.SameText d.toOwned ∧
      ∀ e ∈ d.toOwned.allExcerpts, e.text.isOwned = true) ∧
    (∀ (settings : Option σ) (collected collected' ds ds' : List (Diagnostic κ)),
      List.Forall₂ SameText collected collected' → List.Forall₂ SameText ds ds' →
      (ds.foldl (combine settings) collected == ds'.foldl (combine settings) collected') = true) ∧
    ∀ (buffer : List Char) (start : Int) (stop : Option Int),
      let text := Passage.borrowed (Window.clamp buffer start stop)
      text.length = text.content.length ∧
        text.content = slice buffer (max 0 (min start buffer.length))
          (max 0 (min (stop.getD buffer.length) buffer.length)) := by
  refine ⟨?_, ?_, ?_, ?_⟩
  · intro a b h
    exact interchangeable_of_toOwned_eq ((sameText_iff a b).mp h)
  · intro d
    refine ⟨(sameText_iff _ _).mpr (toOwned_toOwned d).symm, ?_⟩
    intro e he
    rw [allExcerpts_toOwned] at he
    obtain ⟨e, -, rfl⟩ := List.mem_map.mp he
    rfl
  · intro settings collected collected' ds ds' hcollected hds
    rw [forall₂_iff_map_eq sameText_iff] at hcollected hds
    refine beq_of_map_toOwned_eq ?_
    rw [← foldl_combine_toOwned, hcollected, hds, foldl_combine_toOwned]
  · intro buffer start stop text
    exact ⟨text.length_content.symm, Window.content_clamp buffer start stop⟩

def missingSign (line cause : Passage) : Diagnostic Severity :=
  { kind := .error, title := "missing sign".toList
    excerpts := [{ lineNumber := some 2, text := line, highlights := [⟨0, 2, 1, none⟩] }]
    causes := [{ kind := .warning, excerpts := [{ source := some ['a'], text := cause }] }] }

/-- A window from the second line on and a window without a stop, against a copy and a window into
another buffer. -/
theorem interchangeable_of_sameText_missingSign :
    let buffer := "x=1\ny 2".toList
    let a := missingSign (.borrowed (.clamp buffer 4 (some 99))) (.borrowed (.clamp buffer (-7) none))
    let b := missingSign (.owned "y 2".toList) (.borrowed (.clamp ('?' :: buffer) 1 (some 8)))
    a.SameText b ∧ a.Interchangeable b ∧ ¬ b.SameText (missingSign (.owned []) (.owned buffer)) ∧
      ([a, b].foldl (combine none) [b] == [b, b].foldl (combine none) [a]) = true ∧
      ([a, b].foldl (combine none) [b]).map (·.excerpts.map (·.lineNumber)) =
        [[some 2, some 2, some 2]] := by
  intro buffer a b
  have hab : a.SameText b := ⟨⟨rfl, rfl, rfl, rfl, rfl⟩, .cons ⟨rfl, rfl⟩ .nil,
    ⟨⟨rfl, rfl, rfl, rfl, rfl⟩, .cons ⟨rfl, rfl⟩ .nil, trivial⟩, trivial⟩
  have hba : b.SameText a := (sameText_iff b a).mpr ((sameText_iff a b).mp hab).symm
  have hbb : b.SameText b := (sameText_iff b b).mpr rfl
  obtain ⟨hsame, -, hcollected, -⟩ := interchangeable_of_sameText (κ := Severity)
  refine ⟨hab, hsame a b hab, ?_, ?_, by decide⟩
  · intro h
    obtain ⟨-, hexcerpts, -⟩ := h
    cases hexcerpts with
    | cons htext _ => exact absurd htext.1 (by decide)
  · exact hcollected none [b] [a] [a, b] [b, b] (.cons hba .nil) (.cons hab (.cons hbb .nil))

end Diagnostic

end SourceReport

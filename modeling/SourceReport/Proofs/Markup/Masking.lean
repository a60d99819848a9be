import SourceReport.Markup.Diagnostic
import SourceReport.Proofs.Markup.Tokens

namespace SourceReport
open Text

def mask (s : List Char) : List Char := s.map fun c => if c = '\n' then c else '_'

def Highlight.masked (h : Highlight) : Highlight := { h with comment := h.comment.map mask }

/-- An excerpt with the numbers it has, and its text hidden wherever it is kept. -/
def Excerpt.masked (e : Excerpt) : Excerpt :=
  { e with source := e.source.map mask, text := .owned (mask e.text.content)
           highlights := e.highlights.map Highlight.masked }

namespace Diagnostic
variable {κ : Type}

mutual

def masked : Diagnostic κ → Diagnostic Unit
  | ⟨_, title, details, suggestions, version, excerpts, causes⟩ =>
    ⟨(), mask title, mask details, suggestions.map mask, mask version,
      excerpts.map Excerpt.masked, maskedAll causes⟩

def maskedAll : List (Diagnostic κ) → List (Diagnostic Unit)
  | [] => []
  | d :: ds => d.masked :: maskedAll ds

end

end Diagnostic

@[simp] theorem length_mask (s : List Char) : (mask s).length = s.length := List.length_map _

@[simp] theorem isEmpty_mask (s : List Char) : (mask s).isEmpty = s.isEmpty := List.isEmpty_map

theorem splitLines_mask (s : List Char) : splitLines (mask s) = (splitLines s).map mask := by
  induction s with
  | nil => rfl
  | cons c s ih =>
    rw [mask, List.map_cons, ← mask]
    by_cases hc : c = '\n'
    · rw [if_pos hc, splitLines, if_pos hc, splitLines, if_pos hc, ih]
      rfl
    · rw [if_neg hc, splitLines, if_neg (by decide), splitLines, if_neg hc, ih]
      cases splitLines s with
      | nil => simp [mask, hc]
      | cons l ls => simp [mask, hc]

namespace Markup
open SourceReport.Frame

def covers (length : Nat) (index : Int) (h : Highlight) : Bool :=
  decide ((clip length h).first ≤ index) && decide (index < (clip length h).last)

theorem coverOf_map_clip (highlights : List Highlight) (length : Nat) (index : Int) :
    coverOf (highlights.map (clip length)) index = highlights.filter (covers length index) := by
  rw [coverOf, List.filter_map, List.map_map]
  exact List.map_id _

section
variable (f : Highlight → Highlight) {p q : Highlight → Bool} (hp : ∀ h, p (f h) = p h)
include hp

theorem filter_map_of_apply_eq (highlights : List Highlight) :
    (highlights.map f).filter p = (highlights.filter p).map f := by
  rw [List.filter_map]
  congr 1
  exact List.filter_congr fun h _ => hp h

theorem filter_eq_filter_iff (hq : ∀ h, q (f h) = q h) (highlights : List Highlight) :
    (highlights.map f).filter p = (highlights.map f).filter q ↔
      highlights.filter p = highlights.filter q := by
  rw [filter_map_of_apply_eq f hp, filter_map_of_apply_eq f hq]
  constructor
  · intro heq
    -- A highlight that the one selects has a changed twin among those that the other selects, and
    -- the other cannot tell the two apart.
    have hsub : ∀ {a b : Highlight → Bool}, (∀ h, b (f h) = b h) →
        (highlights.filter a).map f = (highlights.filter b).map f →
        ∀ h ∈ highlights, a h = true → b h = true := by
      intro a b hb heq h hmem ha
      have hchanged : f h ∈ (highlights.filter b).map f := by
        rw [← heq]
        exact List.mem_map_of_mem (List.mem_filter.mpr ⟨hmem, ha⟩)
      obtain ⟨k, hk, hkh⟩ := List.mem_map.mp hchanged
      rw [← hb h, ← hkh, hb k]
      exact (List.mem_filter.mp hk).2
    apply List.filter_congr
    intro h hmem
    rw [Bool.eq_iff_iff]
    exact ⟨hsub hq heq h hmem, hsub hp heq.symm h hmem⟩
  · intro heq
    rw [heq]

end

theorem pointsAt_map_clip (highlights : List Highlight) (length : Nat) (index : Int) :
    pointsAt (highlights.map (clip length)) index =
      (highlights.filter fun h => (clip length h).first == (clip length h).last &&
        (clip length h).last == index).map pointNode := by
  rw [pointsAt, List.filter_map, List.map_map]
  rfl

theorem tagsAll_pointsAt (highlights : List Highlight) (length : Nat) (index : Int) :
    tagsAll (pointsAt ((highlights.map Highlight.masked).map (clip length)) index) =
      tagsAll (pointsAt (highlights.map (clip length)) index) := by
  rw [pointsAt_map_clip, pointsAt_map_clip, filter_map_of_apply_eq Highlight.masked fun _ => rfl,
    tagsAll_map, tagsAll_map, List.flatMap_map]
  simp only [pointNode, tags_element]

theorem tagsAll_wrapRun (cover : List Highlight) (nodes : List Node) :
    tagsAll (wrapRun cover nodes) =
      if cover.isEmpty then tagsAll nodes
      else Tag.span.name :: (tagsAll nodes ++ ['/' :: Tag.span.name]) := by
  rw [wrapRun]
  split
  · rfl
  · rw [tagsAll_cons, tags_element, tagsAll_nil, List.append_nil]

/-- A run is opened and closed at the same characters with the texts hidden. -/
theorem tagsAll_runNodes {p : Highlight → Bool} (hp : ∀ h, p h.masked = p h)
    (highlights : List Highlight) (length : Nat) (endsLine : Bool) (index : Nat)
    (s : List Char) :
    let hidden := runNodes ((highlights.map Highlight.masked).map (clip length)) endsLine
      ((highlights.map Highlight.masked).filter p) index (mask s)
    let shown := runNodes (highlights.map (clip length)) endsLine (highlights.filter p) index s
    tagsAll hidden.1 = tagsAll shown.1 ∧ tagsAll hidden.2 = tagsAll shown.2 := by
  have hcovers : ∀ (index : Nat) (h : Highlight),
      covers length index h.masked = covers length index h := fun _ _ => rfl
  have hempty : ∀ index : Nat,
      ((highlights.map Highlight.masked).filter (covers length index)).isEmpty =
        (highlights.filter (covers length index)).isEmpty := by
    intro index
    rw [filter_map_of_apply_eq Highlight.masked (hcovers index), List.isEmpty_map]
  induction s generalizing p index with
  | nil =>
    have hpoints :
        tagsAll (if endsLine then
          pointsAt ((highlights.map Highlight.masked).map (clip length)) index else []) =
        tagsAll (if endsLine then pointsAt (highlights.map (clip length)) index else []) := by
      cases endsLine with
      | false => rfl
      | true => exact tagsAll_pointsAt highlights length index
    have hsame := filter_eq_filter_iff Highlight.masked (hcovers index) hp highlights
    simp only [mask, List.map_nil, runNodes, coverOf_map_clip, hsame]
    split
    · exact ⟨hpoints, rfl⟩
    · refine ⟨hpoints, ?_⟩
      rw [tagsAll_wrapRun, tagsAll_wrapRun, hempty]
  | cons c s ih =>
    have hpoints := tagsAll_pointsAt highlights length index
    have hsame := filter_eq_filter_iff Highlight.masked (hcovers index) hp highlights
    obtain ⟨hinside, hafter⟩ := ih (hcovers index) (index + 1)
    simp only [mask] at hinside hafter
    simp only [mask, List.map_cons, runNodes, coverOf_map_clip, hsame]
    split
    · refine ⟨?_, hafter⟩
      rw [tagsAll_append, tagsAll_append, tagsAll_cons, tagsAll_cons, hpoints, hinside, tags_text,
        tags_text]
    · refine ⟨hpoints, ?_⟩
      rw [tagsAll_append, tagsAll_append, tagsAll_wrapRun, tagsAll_wrapRun, hempty, tagsAll_cons,
        tagsAll_cons, hinside, hafter, tags_text, tags_text]

theorem tagsAll_rowNodes (line : List Char) (row : Row) (highlights : List Highlight) :
    tagsAll (rowNodes (mask line) row (highlights.map Highlight.masked)) =
      tagsAll (rowNodes line row highlights) := by
  have hshown : ((mask line).take row.stop).drop row.start =
      mask ((line.take row.stop).drop row.start) := by
    rw [mask, mask, List.map_drop, List.map_take]
  have hnone : ∀ hs : List Highlight, hs.filter (fun _ => false) = [] := fun hs =>
    List.filter_eq_nil_iff.mpr fun _ _ => Bool.false_ne_true
  have h := tagsAll_runNodes (p := fun _ => false) (fun _ => rfl) highlights line.length
    (row.stop == line.length) row.start ((line.take row.stop).drop row.start)
  simp only [hnone] at h
  simp only [rowNodes, length_mask, hshown, tagsAll_append, h.1, h.2]

theorem tagsAll_numberedRow (highlights : List Highlight) (number : Option Int) (cutStart : Bool)
    (line : List Char) (row : Row) :
    tagsAll (numberedRow (highlights.map Highlight.masked) number cutStart (mask line) row) =
      tagsAll (numberedRow highlights number cutStart line row) := by
  simp only [numberedRow, tagsAll_cons, tags_classed, tagsAll_append, tagsAll_rowNodes, length_mask]

theorem tagsAll_lineNodes (columns : Nat) (highlights : List Highlight) (number : Option Int)
    (cutStart : Bool) (line : List Char) :
    tagsAll (lineNodes columns (highlights.map Highlight.masked) number cutStart (mask line)) =
      tagsAll (lineNodes columns highlights number cutStart line) := by
  have hspan := highlightSpan_map Highlight.masked line.length (fun _ => rfl) (fun _ => rfl)
    highlights
  simp only [lineNodes, tagsAll_flatMap, tagsAll_numberedRow, length_mask, hspan]

theorem tagsAll_mapIdx {hidden shown : Nat → List Char → List Node}
    (h : ∀ i line, tagsAll (hidden i (mask line)) = tagsAll (shown i line))
    (lines : List (List Char)) :
    tagsAll ((lines.map mask).mapIdx hidden).flatten = tagsAll (lines.mapIdx shown).flatten := by
  induction lines generalizing hidden shown with
  | nil => rfl
  | cons line lines ih =>
    rw [List.map_cons, List.mapIdx_cons, List.mapIdx_cons, List.flatten_cons, List.flatten_cons,
      tagsAll_append, tagsAll_append, h, ih fun i => h (i + 1)]

theorem tagsAll_bodyNodes (columns : Nat) (e : Excerpt) :
    tagsAll (bodyNodes columns e.masked) = tagsAll (bodyNodes columns e) := by
  have hlines : e.masked.logicalLines = e.logicalLines.map mask := splitLines_mask _
  have hfilter : ∀ i : Nat, e.masked.highlights.filter (fun h => h.line == (i : Int)) =
      (e.highlights.filter fun h => h.line == (i : Int)).map Highlight.masked :=
    fun _ => filter_map_of_apply_eq Highlight.masked (fun _ => rfl) _
  rw [bodyNodes, bodyNodes, hlines]
  apply tagsAll_mapIdx
  intro i line
  rw [hfilter]
  exact tagsAll_lineNodes columns _ _ _ line

theorem isEmpty_text_masked (e : Excerpt) : e.masked.text.isEmpty = e.text.isEmpty := by
  have h : e.masked.text.length = e.text.length := by
    rw [← Passage.length_content, ← Passage.length_content]
    exact length_mask _
  rw [Passage.isEmpty, Passage.isEmpty, h]

theorem tagsAll_excerptNodes (options : Options) (e : Excerpt) :
    tagsAll (excerptNodes options e.masked) = tagsAll (excerptNodes options e) := by
  have hsource : e.masked.source.isSome = e.source.isSome := Option.isSome_map
  have hempty : e.masked.isEmpty = e.isEmpty := by
    have hnone : e.masked.source.isNone = e.source.isNone := Option.isNone_map
    rw [Excerpt.isEmpty, Excerpt.isEmpty, isEmpty_text_masked, hnone]
    rfl
  rw [excerptNodes, excerptNodes, hempty, hsource, isEmpty_text_masked]
  split
  · rfl
  · rw [tagsAll_cons, tagsAll_cons, tags_classed, tags_classed, tagsAll_append, tagsAll_append,
      tagsAll_bodyNodes]
    split
    · rw [tagsAll_cons, tagsAll_cons, tags_classed, tags_classed, tagsAll_cons, tagsAll_cons,
        tags_text, tags_text]
    · rfl

variable {κ κ' σ σ' : Type}

theorem tagsAll_excerpts_congr (options : Options) {es es' : List Excerpt}
    (h : es.map Excerpt.masked = es'.map Excerpt.masked) :
    tagsAll (es.flatMap (excerptNodes options)) = tagsAll (es'.flatMap (excerptNodes options)) := by
  have hmasked : ∀ es : List Excerpt, tagsAll (es.flatMap (excerptNodes options)) =
      (es.map Excerpt.masked).flatMap fun e => tagsAll (excerptNodes options e) := by
    intro es
    simp only [tagsAll_flatMap, List.flatMap_map, tagsAll_excerptNodes]
  rw [hmasked, hmasked, h]

theorem tagsAll_suggestionNodes (suggestions : List (List Char)) :
    tagsAll (suggestionNodes (suggestions.map mask)) = tagsAll (suggestionNodes suggestions) := by
  rw [suggestionNodes, suggestionNodes, List.isEmpty_map]
  split
  · rfl
  · simp only [tagsAll_cons, tags_element, tags_classed, tags_text, tagsAll_map, List.flatMap_map]

theorem tagsAll_versionNodes (version : List Char) :
    tagsAll (versionNodes (mask version)) = tagsAll (versionNodes version) := by
  rw [versionNodes, versionNodes, isEmpty_mask]
  split
  · rfl
  · simp only [tagsAll_cons, tags_classed, tags_text]

theorem tagsAll_causeNodes (items : List Node) :
    tagsAll (causeNodes items) =
      if items.isEmpty then []
      else Tag.label.name :: Tag.input.name :: ('/' :: Tag.input.name) ::
        ('/' :: Tag.label.name) :: Tag.ul.name :: (tagsAll items ++ ['/' :: Tag.ul.name]) := by
  rw [causeNodes]
  split
  · rfl
  · simp only [tagsAll_cons, tags_element, tags_text, tagsAll_nil, List.nil_append,
      List.append_nil, List.cons_append]

mutual

/-- Diagnostics that are masked alike have the same tags, whatever their kinds. -/
theorem tags_diagnosticNode_congr [Kind κ σ] [Kind κ' σ'] (settings : Option σ)
    (settings' : Option σ') (options : Options) : ∀ (d : Diagnostic κ) (d' : Diagnostic κ'),
    d.masked = d'.masked →
    (diagnosticNode settings options d).tags = (diagnosticNode settings' options d').tags
  | ⟨_, title, details, suggestions, version, excerpts, causes⟩,
    ⟨_, title', details', suggestions', version', excerpts', causes'⟩, h => by
    rw [Diagnostic.masked, Diagnostic.masked, Diagnostic.mk.injEq] at h
    obtain ⟨-, -, -, hsuggestions, hversion, hexcerpts, hcauses⟩ := h
    obtain ⟨hempty, hitems⟩ := causeItems_congr settings settings' options causes causes' hcauses
    have hsuggestion : tagsAll (suggestionNodes suggestions) =
        tagsAll (suggestionNodes suggestions') := by
      rw [← tagsAll_suggestionNodes, hsuggestions, tagsAll_suggestionNodes]
    have hversions : tagsAll (versionNodes version) = tagsAll (versionNodes version') := by
      rw [← tagsAll_versionNodes, hversion, tagsAll_versionNodes]
    rw [diagnosticNode, diagnosticNode, tags_classed, tags_classed]
    simp only [ownNodes, tagsAll_append, tagsAll_cons, tags_classed, tags_text, tagsAll_nil,
      tagsAll_excerpts_congr options hexcerpts, hsuggestion, hversions, tagsAll_causeNodes, hempty,
      hitems]

theorem causeItems_congr [Kind κ σ] [Kind κ' σ'] (settings : Option σ)
    (settings' : Option σ') (options : Options) :
    ∀ (ds : List (Diagnostic κ)) (ds' : List (Diagnostic κ')),
    Diagnostic.maskedAll ds = Diagnostic.maskedAll ds' →
    (causeItems settings options ds).isEmpty = (causeItems settings' options ds').isEmpty ∧
      tagsAll (causeItems settings options ds) = tagsAll (causeItems settings' options ds')
  | [], [], _ => ⟨rfl, rfl⟩
  | [], _ :: _, h => by cases h
  | _ :: _, [], h => by cases h
  | d :: ds, d' :: ds', h => by
    rw [Diagnostic.maskedAll, Diagnostic.maskedAll, List.cons.injEq] at h
    have hnode := tags_diagnosticNode_congr settings settings' options d d' h.1
    have hitems := (causeItems_congr settings settings' options ds ds' h.2).2
    refine ⟨rfl, ?_⟩
    rw [causeItems, causeItems, tagsAll_cons, tagsAll_cons, tags_classed, tags_classed,
      tagsAll_cons, tagsAll_cons, hnode, hitems]

end

end Markup

end SourceReport

import SourceReport.Diagnostic.Report
import SourceReport.Proofs.Diagnostic.Nodes
import SourceReport.Proofs.Frame.GivenTexts
import Mathlib.Data.List.Forall2

namespace SourceReport
open Text

namespace Emphasis

/-- The sequence that switches colours off, and those that switch one on. -/
def sequences : List (List Char) := reset :: [alarm, advice, version, cause].map sequence

theorem length_pos_of_mem_sequences : ∀ q ∈ sequences, 0 < q.length := by decide

/-- A text without the sequences in it, looked for from the text's start on. -/
def erase (s : List Char) : List Char :=
  match s with
  | [] => []
  | c :: cs =>
    match _h : sequences.find? (· <+: c :: cs) with
    | some q => erase ((c :: cs).drop q.length)
    | none => c :: erase cs
termination_by s.length
decreasing_by
  · have := length_pos_of_mem_sequences q (List.mem_of_find?_eq_some _h)
    simp only [List.length_drop, List.length_cons]
    omega
  · exact Nat.lt_succ_self _

theorem mem_sequences {role : Emphasis} (h : role ≠ plain) : role.sequence ∈ sequences := by
  cases role with
  | plain => exact absurd rfl h
  | _ => decide

theorem find?_sequences {q : List Char} (h : q ∈ sequences) (rest : List Char) :
    sequences.find? (· <+: q ++ rest) = some q := by
  simp only [sequences, List.map_cons, List.map_nil, List.mem_cons, List.not_mem_nil, or_false]
    at h
  rcases h with rfl | rfl | rfl | rfl | rfl <;> simp [sequences, sequence, reset]

theorem erase_sequence_append {q : List Char} (h : q ∈ sequences) (rest : List Char) :
    erase (q ++ rest) = erase rest := by
  obtain ⟨c, cs, rfl⟩ := List.exists_cons_of_length_pos (length_pos_of_mem_sequences q h)
  have hfind := find?_sequences h rest
  rw [List.cons_append] at hfind ⊢
  rw [erase]
  split
  · rename_i q hq
    obtain rfl : c :: cs = q := Option.some.inj (hfind.symm.trans hq)
    rw [← List.cons_append, List.drop_left]
  · rename_i hq
    rw [hfind] at hq
    cases hq

theorem erase_cons_of_ne {c : Char} (h : c ≠ '\x1b') (cs : List Char) :
    erase (c :: cs) = c :: erase cs := by
  have hfind : sequences.find? (· <+: c :: cs) = none := by
    simp [sequences, sequence, reset, Ne.symm h]
  rw [erase]
  split
  · rename_i q hq
    rw [hfind] at hq
    cases hq
  · rfl

-- The text that follows is part of this, as a sequence may start at one text's end and go on in the
-- next. Texts without escape characters, and whole sequences, end none and start none.
/-- A styled text leaves a plain one when the sequences are taken out, whatever follows it. -/
def Leaves (styled plain : List Char) : Prop := ∀ rest, erase (styled ++ rest) = plain ++ erase rest

theorem Leaves.erase_eq {styled plain : List Char} (h : Leaves styled plain) :
    erase styled = plain := by
  have := h []
  rwa [List.append_nil, erase, List.append_nil] at this

theorem Leaves.append {s s' t t' : List Char} (hs : Leaves s s') (ht : Leaves t t') :
    Leaves (s ++ t) (s' ++ t') := by
  intro rest
  rw [List.append_assoc, hs, ht, List.append_assoc]

theorem leaves_of_mem {q : List Char} (h : q ∈ sequences) : Leaves q [] :=
  erase_sequence_append h

theorem leaves_self {s : List Char} (h : '\x1b' ∉ s) : Leaves s s := by
  intro rest
  induction s with
  | nil => rfl
  | cons c cs ih =>
    obtain ⟨hc, hcs⟩ := not_or.mp (mt List.mem_cons.mpr h)
    rw [List.cons_append, erase_cons_of_ne (Ne.symm hc), ih hcs, List.cons_append]

theorem leaves_decorate (role : Emphasis) (colour : Bool) {s : List Char} (h : '\x1b' ∉ s) :
    Leaves (role.decorate colour s) s := by
  unfold decorate
  split
  · exact leaves_self h
  · rename_i hcolour
    have hrole : role ≠ plain := by
      rintro rfl
      simp at hcolour
    have hreset : reset ∈ sequences := List.mem_cons_self
    simpa using ((leaves_of_mem (mem_sequences hrole)).append (leaves_self h)).append
      (leaves_of_mem hreset)

theorem leaves_joinLines {lines plain : List (List Char)} (h : List.Forall₂ Leaves lines plain) :
    Leaves (joinLines lines) (joinLines plain) := by
  induction h with
  | nil => exact leaves_self (by decide)
  | @cons line p lines plain hline hlines ih =>
    cases hlines with
    | nil => simpa [joinLines] using hline
    | cons hnext hrest =>
      have hfeed : Leaves ['\n'] ['\n'] := leaves_self (by decide)
      simpa only [joinLines, List.intercalate_cons_cons] using (hline.append hfeed).append ih

end Emphasis

namespace Diagnostic
open Emphasis

variable {κ σ : Type} [Kind κ σ]

/-- Whether no text of a diagnostic brings a sequence of the terminal into its report. The texts of
its excerpts and the comments on them may have any character. -/
structure Unescaped (d : Diagnostic κ) : Prop where
  label : '\x1b' ∉ Kind.label d.kind
  title : '\x1b' ∉ d.title
  details : '\x1b' ∉ d.details
  suggestions : ∀ s ∈ d.suggestions, '\x1b' ∉ s
  version : '\x1b' ∉ d.version
  sources : ∀ e ∈ d.excerpts, ∀ s, e.source = some s → '\x1b' ∉ s

theorem Unescaped.not_escape_excerpts {d : Diagnostic κ} (h : d.Unescaped) (options : Options) :
    ∀ line ∈ Excerpt.sharedDrawnLines d.excerpts none options, '\x1b' ∉ line :=
  Frame.not_mem_of_mem_sharedDrawnLines (by decide) options (fun _ hs => by cases hs) h.sources

theorem not_mem_intercalate {c : Char} {separator : List Char} {parts : List (List Char)}
    (hs : c ∉ separator) (h : ∀ p ∈ parts, c ∉ p) : c ∉ List.intercalate separator parts := by
  induction parts with
  | nil => exact List.not_mem_nil
  | cons p parts ih =>
    obtain ⟨hp, hparts⟩ := List.forall_mem_cons.mp h
    cases parts with
    | nil => rwa [List.intercalate_singleton]
    | cons q parts =>
      rw [List.intercalate_cons_cons, List.mem_append, List.mem_append, not_or, not_or]
      exact ⟨⟨hp, hs⟩, ih hparts⟩

theorem forall₂_suggestionLines (colour : Bool) {suggestions : List (List Char)}
    (h : ∀ s ∈ suggestions, '\x1b' ∉ s) :
    List.Forall₂ Leaves (suggestionLines colour suggestions)
      (suggestionLines false suggestions) := by
  have hline {label s : List Char} (hlabel : '\x1b' ∉ label) (hs : '\x1b' ∉ s) :
      Leaves (advice.decorate colour label ++ ": ".toList ++ s ++ ['?'])
        (advice.decorate false label ++ ": ".toList ++ s ++ ['?']) :=
    (((leaves_decorate advice colour hlabel).append (leaves_self (by decide))).append
      (leaves_self hs)).append (leaves_self (by decide))
  match suggestions with
  | [] => exact .nil
  | [one] => exact .cons (hline (by decide) (h one List.mem_cons_self)) .nil
  | one :: two :: more => exact .cons (hline (by decide) (not_mem_intercalate (by decide) h)) .nil

theorem forall₂_ownLines (settings settings' : Option σ) (options : Options) (colour : Bool)
    {d : Diagnostic κ} (h : d.Unescaped) :
    List.Forall₂ Leaves (ownLines settings (options.withColour colour) d)
      (ownLines settings' (options.withColour false) d) := by
  have hlabel (role : Emphasis) : Leaves (role.decorate colour (Kind.label d.kind) ++ ": ".toList ++
      d.title) (Kind.label d.kind ++ ": ".toList ++ d.title) :=
    ((leaves_decorate role colour h.label).append (leaves_self (by decide))).append
      (leaves_self h.title)
  have hversion : List.Forall₂ Leaves
      (if d.version.isEmpty then []
        else [Emphasis.version.decorate colour "Version".toList ++ ": ".toList ++ d.version])
      (if d.version.isEmpty then []
        else [Emphasis.version.decorate false "Version".toList ++ ": ".toList ++ d.version]) := by
    split
    · exact .nil
    · exact .cons (((leaves_decorate _ colour (by decide)).append (leaves_self (by decide))).append
        (leaves_self h.version)) .nil
  have hblock : List.Forall₂ Leaves (Excerpt.sharedDrawnLines d.excerpts none options)
      (Excerpt.sharedDrawnLines d.excerpts none options) :=
    List.forall₂_same.mpr fun line hl => leaves_self (h.not_escape_excerpts options line hl)
  exact List.rel_append (List.rel_append (List.rel_append (List.rel_append
    (.cons (hlabel _) .nil) hblock) (.cons (leaves_self h.details) .nil))
    (forall₂_suggestionLines colour h.suggestions)) hversion

theorem ownLines_withColour_false (settings settings' : Option σ) (options : Options)
    (d : Diagnostic κ) :
    ownLines settings (options.withColour false) d =
      ownLines settings' (options.withColour false) d := by
  have hplain (role : Emphasis) (s : List Char) :
      role.decorate (options.withColour false).colour s = s := decorate_false role s
  rw [ownLines, ownLines, hplain, hplain, hplain]

mutual

theorem leaves_render (settings settings' : Option σ) (options : Options) (colour : Bool) :
    ∀ d : Diagnostic κ, (∀ n ∈ d.nodes, n.Unescaped) →
      Leaves (d.render settings (options.withColour colour))
        (d.render settings' (options.withColour false))
  | ⟨kind, title, details, suggestions, version, excerpts, causes⟩, h => by
    obtain ⟨hown, hcauses⟩ := List.forall_mem_cons.mp h
    have hlines : List.Forall₂ Leaves
        (ownLines settings (options.withColour colour)
          ⟨kind, title, details, suggestions, version, excerpts, []⟩)
        (ownLines settings' (options.withColour false)
          ⟨kind, title, details, suggestions, version, excerpts, []⟩) :=
      forall₂_ownLines settings settings' options colour
        ⟨hown.label, hown.title, hown.details, hown.suggestions, hown.version, hown.sources⟩
    rw [render, render]
    refine ((leaves_joinLines hlines).append (leaves_self (by decide))).append ?_
    split
    · exact leaves_self List.not_mem_nil
    · refine Leaves.append ?_ (leaves_renderAll settings settings' options colour causes hcauses)
      have htitle : '\x1b' ∉
          if causes.length = 1 then "Underlying error".toList else "Underlying errors".toList := by
        split <;> decide
      exact (leaves_decorate cause colour htitle).append (leaves_self (by decide))

theorem leaves_renderAll (settings settings' : Option σ) (options : Options) (colour : Bool) :
    ∀ ds : List (Diagnostic κ), (∀ n ∈ nodesAll ds, n.Unescaped) →
      Leaves (renderAll settings (options.withColour colour) ds)
        (renderAll settings' (options.withColour false) ds)
  | [], _ => leaves_self List.not_mem_nil
  | d :: ds, h => by
    obtain ⟨hd, hds⟩ := List.forall_mem_append.mp h
    rw [renderAll, renderAll]
    refine (leaves_render settings settings' options colour d hd).append ?_
    split
    · exact leaves_self List.not_mem_nil
    · have hfeed : Leaves ['\n'] ['\n'] := leaves_self (by decide)
      exact hfeed.append (leaves_renderAll settings settings' options colour ds hds)

end

mutual

theorem render_withColour_false (settings settings' : Option σ) (options : Options) :
    ∀ d : Diagnostic κ, d.render settings (options.withColour false) =
      d.render settings' (options.withColour false)
  | ⟨_, _, _, _, _, _, causes⟩ => by
    rw [render, render, ownLines_withColour_false settings settings',
      renderAll_withColour_false settings settings' options causes]

theorem renderAll_withColour_false (settings settings' : Option σ) (options : Options) :
    ∀ ds : List (Diagnostic κ), renderAll settings (options.withColour false) ds =
      renderAll settings' (options.withColour false) ds
  | [] => rfl
  | d :: ds => by
    rw [renderAll, renderAll, render_withColour_false settings settings' options d,
      renderAll_withColour_false settings settings' options ds]

end

theorem joinLines_isPrefix (xs ys : List (List Char)) : joinLines xs <+: joinLines (xs ++ ys) := by
  induction xs with
  | nil => exact List.nil_prefix
  | cons x xs ih =>
    cases xs with
    | nil =>
      cases ys with
      | nil => exact List.prefix_refl _
      | cons y ys =>
        rw [joinLines, joinLines, List.intercalate_singleton, List.singleton_append,
          List.intercalate_cons_cons, List.append_assoc]
        exact List.prefix_append _ _
    | cons x' xs =>
      rw [joinLines, joinLines, List.cons_append, List.cons_append, List.intercalate_cons_cons,
        List.intercalate_cons_cons]
      exact (List.prefix_append_right_inj _).mpr ih

theorem joinLines_isSuffix (xs ys : List (List Char)) : joinLines ys <:+ joinLines (xs ++ ys) := by
  induction xs with
  | nil => exact List.suffix_refl _
  | cons x xs ih =>
    rw [List.cons_append]
    cases hrest : xs ++ ys with
    | nil =>
      rw [(List.append_eq_nil_iff.mp hrest).2]
      exact List.nil_suffix
    | cons z zs =>
      rw [hrest] at ih
      rw [joinLines, joinLines, List.intercalate_cons_cons]
      exact ih.trans (List.suffix_append _ _)

theorem block_infix_ownLines (settings : Option σ) (options : Options) (d : Diagnostic κ) :
    joinLines (Excerpt.sharedDrawnLines d.excerpts none options) <:+:
      joinLines (ownLines settings options d) := by
  unfold ownLines
  simp only [List.append_assoc]
  refine List.IsInfix.trans ?_ (joinLines_isSuffix _ _).isInfix
  exact (joinLines_isPrefix _ _).isInfix

mutual

theorem render_infix_of_mem_nodes (settings : Option σ) (options : Options) :
    ∀ d : Diagnostic κ, ∀ n ∈ d.nodes, n.render settings options <:+: d.render settings options
  | ⟨kind, title, details, suggestions, version, excerpts, causes⟩, n, hn => by
    rcases List.mem_cons.mp hn with rfl | hn
    · exact List.infix_refl _
    · have hcause := render_infix_of_mem_nodesAll settings options causes n hn
      have hne : causes.isEmpty = false := by
        cases causes with
        | nil => cases hn
        | cons => rfl
      rw [render.eq_1 settings options kind, hne, if_neg (by decide)]
      exact hcause.trans
        ((List.suffix_append _ _).trans (List.suffix_append _ _)).isInfix

theorem render_infix_of_mem_nodesAll (settings : Option σ) (options : Options) :
    ∀ ds : List (Diagnostic κ), ∀ n ∈ nodesAll ds,
      n.render settings options <:+: renderAll settings options ds
  | [], _, hn => by cases hn
  | d :: ds, n, hn => by
    rw [renderAll]
    rcases List.mem_append.mp hn with hn | hn
    · exact (render_infix_of_mem_nodes settings options d n hn).trans
        (List.prefix_append _ _).isInfix
    · have hcause := render_infix_of_mem_nodesAll settings options ds n hn
      have hne : ds.isEmpty = false := by
        cases ds with
        | nil => cases hn
        | cons => rfl
      rw [hne, if_neg (by decide)]
      exact hcause.trans ((List.suffix_cons _ _).trans (List.suffix_append _ _)).isInfix

end

theorem block_infix_render (settings : Option σ) (options : Options) (d : Diagnostic κ) :
    joinLines (Excerpt.sharedDrawnLines d.excerpts none options) <:+:
      d.render settings options := by
  obtain ⟨kind, title, details, suggestions, version, excerpts, causes⟩ := d
  rw [render]
  refine (block_infix_ownLines settings options _).trans ?_
  exact ((List.prefix_append _ _).trans (List.prefix_append _ _)).isInfix

/-- Without colour a report is the same under all settings. If no text but those of excerpts and
their comments has an escape character, then the coloured report without the sequences of colours is
that report, and in the blocks of the coloured report no sequence stands. -/
theorem erase_render (options : Options) (d : Diagnostic κ) :
    (∀ settings settings' : Option σ,
      d.render settings (options.withColour false) =
        d.render settings' (options.withColour false)) ∧
    ((∀ n ∈ d.nodes, n.Unescaped) → ∀ settings : Option σ,
      erase (d.render settings (options.withColour true)) =
        d.render settings (options.withColour false) ∧
      ∀ n ∈ d.nodes,
        joinLines (Excerpt.sharedDrawnLines n.excerpts none (options.withColour true)) <:+:
          d.render settings (options.withColour true) ∧
        ∀ line ∈ Excerpt.sharedDrawnLines n.excerpts none (options.withColour true),
          '\x1b' ∉ line) := by
  refine ⟨fun settings settings' => render_withColour_false settings settings' options d, ?_⟩
  intro h settings
  refine ⟨(leaves_render settings settings options true d h).erase_eq, ?_⟩
  intro n hn
  exact ⟨(block_infix_render settings _ n).trans (render_infix_of_mem_nodes settings _ d n hn),
    (h n hn).not_escape_excerpts _⟩

/-- An error on a line that would change the colour itself, as would the comment on it, with a
warning as its cause. -/
def hostileError : Diagnostic Severity where
  kind := .error
  title := "bad".toList
  suggestions := ["a".toList, "b".toList]
  version := "2".toList
  excerpts := [{
    text := .owned "\x1b[31m".toList
    highlights := [⟨0, 5, 0, some ['\x1b']⟩] }]
  causes := [{ kind := .warning, title := "old".toList }]

/-- Nothing is left of the colours; of the text, the characters of the sequence are all shown. -/
theorem erase_render_hostile :
    (∀ n ∈ hostileError.nodes, n.Unescaped) ∧
    erase (hostileError.render (some ()) (Options.withColour { ascii := true } true)) =
      "error: bad\n ,\n | ?[31m\n :      ^ ?\n '\n\nDid you mean any of: a, b?\n".toList ++
        "Version: 2\nUnderlying error:\nwarning: old\n\n".toList := by
  have hclean : ∀ n ∈ hostileError.nodes, n.Unescaped := by
    intro n hn
    rcases List.mem_cons.mp hn with rfl | hn
    · exact ⟨by decide, by decide, by decide, by decide, by decide, by decide⟩
    · rw [List.mem_singleton.mp hn]
      exact ⟨by decide, by decide, by decide, by decide, by decide, by decide⟩
  refine ⟨hclean, ?_⟩
  rw [((erase_render { ascii := true } hostileError).2 hclean (some ())).1]
  decide +kernel

end Diagnostic

end SourceReport

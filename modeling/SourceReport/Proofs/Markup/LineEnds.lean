import SourceReport.Proofs.Frame.Body
import SourceReport.Proofs.Highlight.Ranges
import SourceReport.Proofs.Markup.Masking

namespace SourceReport
open Text

/-- Whether a change of highlights keeps their comments, and the places where they start and stop on
a line with `length` characters. -/
structure SameOnLine (length : Nat) (f : Highlight → Highlight) : Prop where
  first : ∀ h, min (f h).offset (length : Int) = min h.offset (length : Int)
  stop : ∀ h, min (f h).stop (length : Int) = min h.stop (length : Int)
  comment : ∀ h, (f h).comment = h.comment

/-- A highlight without what is past the end of a line with `length` characters. -/
def Highlight.cutAt (length : Nat) (h : Highlight) : Highlight :=
  { h with length := min h.length (max 0 (length - h.offset)) }

theorem sameOnLine_cutAt (length : Nat) : SameOnLine length (Highlight.cutAt length) where
  first _ := rfl
  stop h := by
    simp only [Highlight.cutAt, Highlight.stop]
    omega
  comment _ := rfl

namespace Excerpt

def lineLength (e : Excerpt) (line : Int) : Nat := (e.logicalLines[line.toNat]?.getD []).length

def cutHighlights (e : Excerpt) : Excerpt :=
  { e with highlights := e.highlights.map fun h => h.cutAt (e.lineLength h.line) }

theorem locator_cutHighlights (e : Excerpt) : e.cutHighlights.locator = e.locator :=
  e.locator_map (fun h => h.cutAt (e.lineLength h.line)) (fun _ => rfl) (fun _ => rfl)

theorem filter_line_cutHighlights {e : Excerpt} {k : Nat} {line : List Char}
    (hline : e.logicalLines[k]? = some line) :
    e.cutHighlights.highlights.filter (fun h => h.line == (k : Int)) =
      (e.highlights.filter fun h => h.line == (k : Int)).map (Highlight.cutAt line.length) := by
  unfold cutHighlights
  rw [List.filter_map]
  apply List.map_congr_left
  intro h hh
  have hk : h.line = k := eq_of_beq (List.mem_filter.mp hh).2
  have hlength : e.lineLength h.line = line.length := by
    rw [lineLength, hk, Int.toNat_natCast, hline, Option.getD_some]
  rw [hlength]

end Excerpt

namespace Frame

theorem drawnAlike_of_sameOnLine {length : Nat} {f : Highlight → Highlight}
    (hf : SameOnLine length f) (l : Layout) : DrawnAlike l length f := by
  refine ⟨hf.first, hf.stop, ?_⟩
  intro row lead h
  unfold Layout.mark?
  rw [hf.first, hf.stop, hf.comment]

theorem highlightsOn_cutHighlights {e : Excerpt} {k : Nat} {line : List Char}
    (hline : e.logicalLines[k]? = some line) :
    highlightsOn e.cutHighlights k = (highlightsOn e k).map (Highlight.cutAt line.length) := by
  rw [highlightsOn, highlightsOn, Excerpt.filter_line_cutHighlights hline]
  symm
  apply List.map_mergeSort
  exact fun _ _ _ _ => rfl

theorem linePart_cutHighlights (l : Layout) (e : Excerpt) (k : Nat) :
    linePart l e.cutHighlights k = linePart l e k := by
  cases hline : e.logicalLines[k]? with
  | none =>
    -- nothing is drawn for a line that there is not
    have hcut : e.cutHighlights.logicalLines[k]? = none := hline
    unfold linePart
    rw [hline, hcut]
  | some line =>
    have hf : ∀ other, e.logicalLines[k]? = some other →
        DrawnAlike l other.length (Highlight.cutAt line.length) := by
      intro other hother
      obtain rfl : line = other := Option.some.inj (hline.symm.trans hother)
      exact drawnAlike_of_sameOnLine (sameOnLine_cutAt line.length) l
    have htext : e.logicalLines[k]? = e.cutHighlights.logicalLines[k]? := rfl
    exact (linePart_of_map hf htext rfl rfl (highlightsOn_cutHighlights hline).symm).symm

theorem drawnLines_cutHighlights (o : Options) (note : Option (List Char)) (placement : Placement)
    (e : Excerpt) : e.cutHighlights.drawnLines note placement o = e.drawnLines note placement o :=
  drawnLines_congr o note placement e.locator_cutHighlights fun l k => linePart_cutHighlights l e k

end Frame

namespace Markup
open SourceReport.Frame

section
variable {length : Nat} {f : Highlight → Highlight} (hf : SameOnLine length f)
include hf

theorem pointsAt_map (highlights : List Highlight) (index : Int) :
    pointsAt ((highlights.map f).map (clip length)) index =
      pointsAt (highlights.map (clip length)) index := by
  have hclip (h : Highlight) : ((clip length (f h)).first == (clip length (f h)).last &&
      (clip length (f h)).last == index) =
        ((clip length h).first == (clip length h).last && (clip length h).last == index) := by
    simp only [clip, hf.first, hf.stop]
  have hnode (h : Highlight) : pointNode (f h) = pointNode h := by
    rw [pointNode, hf.comment, pointNode]
  rw [pointsAt_map_clip, pointsAt_map_clip, filter_map_of_apply_eq f hclip, List.map_map]
  exact List.map_congr_left fun h _ => hnode h

theorem wrapRun_map (cover : List Highlight) (nodes : List Node) :
    wrapRun (cover.map f) nodes = wrapRun cover nodes := by
  simp only [wrapRun, coverTitle, List.isEmpty_map, List.filterMap_map, Function.comp_def,
    hf.comment]

/-- Characters that the same highlights cover do so after the change, and no others. -/
theorem runNodes_map {p : Highlight → Bool} (hp : ∀ h, p (f h) = p h) (highlights : List Highlight)
    (endsLine : Bool) (index : Nat) (s : List Char) :
    runNodes ((highlights.map f).map (clip length)) endsLine ((highlights.map f).filter p) index s =
      runNodes (highlights.map (clip length)) endsLine (highlights.filter p) index s := by
  have hcovers (index : Nat) (h : Highlight) :
      covers length index (f h) = covers length index h := by
    rw [covers, clip, hf.first, hf.stop]
    rfl
  have hwrap (index : Nat) (nodes : List Node) :
      wrapRun ((highlights.map f).filter (covers length index)) nodes =
        wrapRun (highlights.filter (covers length index)) nodes := by
    rw [filter_map_of_apply_eq f (hcovers index), wrapRun_map hf]
  -- over the characters left, under the cover of the one before them: a run goes on where the cover
  -- stays the same, and the change leaves that as it is
  induction s generalizing p index with
  | nil =>
    have hsame := filter_eq_filter_iff f (hcovers index) hp highlights
    simp only [runNodes, coverOf_map_clip, pointsAt_map hf, hsame, hwrap]
  | cons c s ih =>
    have hsame := filter_eq_filter_iff f (hcovers index) hp highlights
    simp only [runNodes, coverOf_map_clip, pointsAt_map hf, hsame, hwrap, ih (hcovers index)]

end

theorem rowNodes_map {f : Highlight → Highlight} {line : List Char} (hf : SameOnLine line.length f)
    (row : Row) (highlights : List Highlight) :
    rowNodes line row (highlights.map f) = rowNodes line row highlights := by
  have hnone (hs : List Highlight) : hs.filter (fun _ => false) = [] :=
    List.filter_eq_nil_iff.mpr fun _ _ => Bool.false_ne_true
  have hruns := runNodes_map hf (p := fun _ => false) (fun _ => rfl) highlights
    (row.stop == line.length) row.start ((line.take row.stop).drop row.start)
  rw [hnone, hnone] at hruns
  simp only [rowNodes, hruns]

theorem lineNodes_map {f : Highlight → Highlight} {line : List Char}
    (hf : SameOnLine line.length f) (columns : Nat) (highlights : List Highlight)
    (number : Option Int) (cutStart : Bool) :
    lineNodes columns (highlights.map f) number cutStart line =
      lineNodes columns highlights number cutStart line := by
  have hspan := highlightSpan_map f line.length hf.first hf.stop highlights
  have hrow (row : Row) : numberedRow (highlights.map f) number cutStart line row =
      numberedRow highlights number cutStart line row := by
    simp only [numberedRow, rowNodes_map hf]
  unfold lineNodes
  rw [hspan]
  exact List.flatMap_congr fun row _ => hrow row

theorem bodyNodes_cutHighlights (columns : Nat) (e : Excerpt) :
    bodyNodes columns e.cutHighlights = bodyNodes columns e := by
  have hlines : e.cutHighlights.logicalLines = e.logicalLines := rfl
  unfold bodyNodes
  rw [hlines]
  congr 1
  rw [List.mapIdx_eq_mapIdx_iff]
  intro k hk
  rw [Excerpt.filter_line_cutHighlights (List.getElem?_eq_getElem hk)]
  exact lineNodes_map (sameOnLine_cutAt _) columns _ _ _

theorem toHtml_cutHighlights (options : Options) (e : Excerpt) :
    e.cutHighlights.toHtml options = e.toHtml options := by
  unfold Excerpt.toHtml excerptNodes
  rw [bodyNodes_cutHighlights, e.locator_cutHighlights]
  rfl

end Markup

namespace Excerpt

theorem cutHighlights_onLine {line : Passage} (hfree : '\n' ∉ line.content)
    (hne : line.content ≠ []) (hlen : (line.length : Int) ≤ unbounded) (index : Option Int)
    {offset : Int} (hoffset : 0 ≤ offset) (comment : Option (List Char)) :
    (onLine index line offset unbounded comment).cutHighlights =
      onLine index line offset (max 0 (line.length - offset)) comment := by
  have hlines : (onLine index line offset unbounded comment).logicalLines = [line.content] :=
    splitLines_of_not_mem hfree hne
  have hlength : (onLine index line offset unbounded comment).lineLength 0 = line.length := by
    rw [lineLength, hlines]
    exact Passage.length_content line
  have hcut : (⟨0, offset, unbounded, comment⟩ : Highlight).cutAt line.length =
      ⟨0, offset, max 0 (line.length - offset), comment⟩ := by
    have hmin : min unbounded (max 0 ((line.length : Int) - offset)) =
        max 0 (line.length - offset) := by omega
    rw [Highlight.cutAt, hmin]
  change ({ onLine index line offset unbounded comment with
    highlights := [(⟨0, offset, unbounded, comment⟩ : Highlight).cutAt
      ((onLine index line offset unbounded comment).lineLength 0)] } : Excerpt) = _
  rw [hlength, hcut]
  rfl

theorem ofShorthand_slice (start : Int) (comment : Option (List Char)) :
    Highlight.ofShorthand (.tuple [.number 0, .bounds (.slice (some start) none none),
      comment.elim .nothing .text]) = .ok ⟨0, max 0 start, unbounded, comment⟩ := by
  cases comment <;> rfl

/-- A range from a place of a line on shows alike whether its highlight stops at the line's end, as
that of a range of the line and that of a stretch do, or has no end, as one that is added has. -/
theorem open_range_shows_alike (index : Option Int) (line : Passage) (start : Int)
    (comment : Option (List Char)) (hfree : '\n' ∉ line.content) (hne : line.content ≠ [])
    (hlen : (line.length : Int) ≤ unbounded) :
    ∃ stretched h,
      multiple index line [⟨0, some (.slice (some start) none none), comment⟩] = .ok stretched ∧
      Highlight.ofShorthand (.tuple [.number 0, .bounds (.slice (some start) none none),
        comment.elim .nothing .text]) = .ok h ∧
      let ranged := lineRange index line (some start) none comment false
      let added := (wholeLine index line).addHighlight h
      ranged.highlights = [⟨0, max 0 start, max 0 (line.length - max 0 start), comment⟩] ∧
      stretched.highlights = ranged.highlights ∧
      added.highlights = [⟨0, max 0 start, unbounded, comment⟩] ∧
      (∀ note placement options,
        stretched.render note placement options = ranged.render note placement options ∧
        added.render note placement options = ranged.render note placement options) ∧
      ∀ options, stretched.toHtml options = ranged.toHtml options ∧
        added.toHtml options = ranged.toHtml options := by
  have hoffset : 0 ≤ max 0 start := Int.le_max_left _ _
  have hranged : lineRange index line (some start) none comment false =
      (onLine index line (max 0 start) unbounded comment).cutHighlights :=
    (cutHighlights_onLine hfree hne hlen index hoffset comment).symm
  have hadded := addHighlight_wholeLine index line
    (h := ⟨0, max 0 start, unbounded, comment⟩) rfl
  refine ⟨_, _, multiple_slice index hfree hne _ _ _ comment, ofShorthand_slice start comment, rfl,
    rfl, ?_, ?_, ?_⟩
  · rw [hadded]
    rfl
  · intro note placement options
    refine ⟨rfl, ?_⟩
    rw [hadded, hranged, render, render, Frame.drawnLines_cutHighlights]
  · intro options
    refine ⟨rfl, ?_⟩
    rw [hadded, hranged, Markup.toHtml_cutHighlights]

/-- A line that needs several rows, highlighted from its thirtieth place on. -/
theorem open_range_shows_alike_wrapped :
    let line : Passage := .owned (List.replicate 40 'x')
    let comment := some "rest".toList
    ('\n' ∉ line.content ∧ line.content ≠ [] ∧ (line.length : Int) ≤ unbounded) ∧
    multiple (some 2) line [⟨0, some (.slice (some 30) none none), comment⟩] =
      .ok (onLine (some 2) line 30 10 comment) ∧
    ((wholeLine (some 2) line).addHighlight ⟨0, 30, unbounded, comment⟩).render none {}
        { maxColumns := 20 } =
      (onLine (some 2) line 30 10 comment).render none {} { maxColumns := 20 } ∧
    ((wholeLine (some 2) line).addHighlight ⟨0, 30, unbounded, comment⟩).toHtml {} =
      (onLine (some 2) line 30 10 comment).toHtml {} := by
  intro line comment
  have hline : '\n' ∉ line.content ∧ line.content ≠ [] ∧ (line.length : Int) ≤ unbounded := by
    decide
  obtain ⟨stretched, h, hstretched, hshort, -, -, -, hrender, hmarkup⟩ :=
    open_range_shows_alike (some 2) line 30 comment hline.1 hline.2.1 hline.2.2
  have hknown : multiple (some 2) line [⟨0, some (.slice (some 30) none none), comment⟩] =
      .ok (onLine (some 2) line 30 10 comment) := multiple_slice _ hline.1 hline.2.1 _ _ _ _
  have hopen : h = ⟨0, 30, unbounded, comment⟩ := (Except.ok.inj hshort).symm
  have hrange : lineRange (some 2) line (some 30) none comment false =
      onLine (some 2) line 30 10 comment := rfl
  rw [hopen, hrange] at hrender hmarkup
  exact ⟨hline, hknown, (hrender none {} { maxColumns := 20 }).2, (hmarkup {}).2⟩

end Excerpt

end SourceReport

import SourceReport.Highlight
import SourceReport.Proofs.Sorting

namespace SourceReport.Highlight

def isAt (line offset : Int) (h : Highlight) : Bool := h.line == line && h.offset == offset

def moveTo (line : Int) (h : Highlight) : Highlight := { h with line }

theorem filter_isAt (highlights : List Highlight) (line offset : Int) :
    highlights.filter (isAt line offset) =
      (highlights.filter (·.line == line)).filter (·.offset == offset) := by
  rw [List.filter_filter]
  exact List.filter_congr fun h _ => Bool.and_comm _ _

theorem pairwise_sort (highlights : List Highlight) :
    (sort highlights).Pairwise fun a b => before a b = true :=
  List.pairwise_mergeSort before_trans before_total highlights

theorem filter_isAt_sort (highlights : List Highlight) (line offset : Int) :
    (sort highlights).filter (isAt line offset) = highlights.filter (isAt line offset) := by
  apply filter_mergeSort before_trans before_total
  intro a b ha hb
  simp only [isAt, Bool.and_eq_true, beq_iff_eq] at ha hb
  simp only [before, Bool.or_eq_true, Bool.and_eq_true, decide_eq_true_eq]
  omega

/-- Whether highlights are those given, in order, and those at one place as they were given. -/
structure StablySorted (given sorted : List Highlight) : Prop where
  ordered : sorted.Pairwise fun a b => before a b = true
  kept : ∀ line offset, sorted.filter (isAt line offset) = given.filter (isAt line offset)

theorem stablySorted_sort (highlights : List Highlight) :
    StablySorted highlights (sort highlights) :=
  ⟨pairwise_sort highlights, filter_isAt_sort highlights⟩

theorem perm_of_filter_isAt_eq {xs ys : List Highlight}
    (h : ∀ line offset, xs.filter (isAt line offset) = ys.filter (isAt line offset)) :
    xs.Perm ys := by
  rw [List.perm_iff_count]
  intro a
  have hcount (zs : List Highlight) : zs.count a = (zs.filter (isAt a.line a.offset)).count a := by
    rw [List.count_filter]
    simp [isAt]
  rw [hcount xs, hcount ys, h]

end SourceReport.Highlight

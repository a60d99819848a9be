namespace SourceReport.Text

def codeLe : List Char → List Char → Bool
  | [], _ => true
  | _ :: _, [] => false
  | a :: as, b :: bs => decide (a.toNat < b.toNat) || a == b && codeLe as bs

def sortedSet (texts : List (List Char)) : List (List Char) := texts.eraseDups.mergeSort codeLe

theorem mem_sortedSet {texts : List (List Char)} {t : List Char} :
    t ∈ sortedSet texts ↔ t ∈ texts := by
  rw [sortedSet, List.mem_mergeSort, List.mem_eraseDups]

end SourceReport.Text

import SourceReport.Proofs.Excerpt.Matched
import SourceReport.Proofs.Text.CodeOrder

namespace SourceReport.Grammar
open Text

/-- A message that lists texts, each once and in order. -/
def Lists (message : List Char) (texts : List (List Char)) : Prop :=
  ∃ listed : List (List Char), listed.Pairwise (· < ·) ∧ (∀ t, t ∈ listed ↔ t ∈ texts) ∧
    message = match listed with
      | [one] => "expected ".toList ++ one
      | several => "expected one of ".toList ++ List.intercalate ", ".toList several

theorem lists_expectedMessage (expected : List (List Char)) :
    Lists (expectedMessage expected) expected :=
  ⟨sortedSet expected, pairwise_sortedSet expected, fun _ => mem_sortedSet, rfl⟩

theorem expectedMessage_congr {a b : List (List Char)} (h : ∀ t, t ∈ a ↔ t ∈ b) :
    expectedMessage a = expectedMessage b := by
  rw [expectedMessage, expectedMessage, sortedSet_congr h]

namespace Failure
variable {source : List Char} {index : Nat}

theorem diagnostic_natCast {κ : Type} (h : index ≤ source.length) (expected : List (List Char))
    (sourceName : Option (List Char)) (kind : κ) :
    diagnostic ⟨source, index, expected⟩ sourceName kind =
      .ok (.new kind "Invalid syntax".toList (expectedMessage expected)
        (excerpt ⟨source, index, expected⟩ (.atOffset source index) sourceName)) := by
  rw [diagnostic, Position.at?_natCast h]
  rfl

theorem excerpt_eq {before left right after : List Char}
    (h : LineAt source index before left right after) (expected : List (List Char))
    (sourceName : Option (List Char)) :
    ∃ text, excerpt ⟨source, index, expected⟩ (.atOffset source index) sourceName =
        { source := sourceName, lineNumber := some ((source.take index).count '\n' + 1), text
          highlights := [{ line := 0, offset := left.length, length := (right.take 1).length
                           comment := some (expectedMessage expected) }] } ∧
      text.content = left ++ right := by
  have hstart : (index : Int) - left.length = before.length := by
    rw [h.place_eq]
    omega
  have hlength : (if (index : Int) < lineEnd source ((index : Int) - left.length) then (1 : Int)
      else 0) = (right.take 1).length := by
    rw [hstart, h.lineEnd_eq, h.place_eq]
    simp only [List.length_append, List.length_take]
    split <;> omega
  have hcontent := h.content_clamp
  unfold excerpt
  dsimp only
  rw [h.atOffset_eq]
  dsimp only
  rw [hlength]
  cases sourceName with
  | none => exact ⟨_, rfl, hcontent⟩
  | some name => exact ⟨_, rfl, hcontent⟩

theorem getElem?_place {before left right after : List Char}
    (h : LineAt source index before left right after) {c : Char} (hne : c ≠ '\n') :
    source[index]? = some c ↔ right.head? = some c := by
  have hplace : source[index]? = (right ++ after).head? := by rw [← h.drop_eq, List.head?_drop]
  rw [hplace]
  cases right with
  | nil =>
    obtain rfl | ⟨rest, rfl⟩ := h.ends
    · rfl
    · simp [hne.symm]
  | cons d right => rfl

theorem diagnostic_congr {κ : Type} {a b : List (List Char)} (h : ∀ t, t ∈ a ↔ t ∈ b)
    (sourceName : Option (List Char)) (kind : κ) :
    diagnostic ⟨source, index, a⟩ sourceName kind =
      diagnostic ⟨source, index, b⟩ sourceName kind := by
  simp only [diagnostic, excerpt, expectedMessage_congr h]

/-- The diagnostic of a failed parse has one excerpt, the line of the place of the failure. Its only
highlight is on the character at the place; where the line ends there, it is a point behind the
line. Details and comment are one message, which lists what was expected and is the same however
that is told. -/
theorem diagnostic_points {κ : Type} (source : List Char) (index : Nat) (h : index ≤ source.length)
    (expected : List (List Char)) (sourceName : Option (List Char)) (kind : κ) :
    ∃ (d : Diagnostic κ) (e : Excerpt) (offset length : Nat),
      diagnostic ⟨source, index, expected⟩ sourceName kind = .ok d ∧ d.excerpts = [e] ∧
      (pieces '\n' source)[(source.take index).count '\n']? = some e.text.content ∧
      e.highlights = [{ line := 0, offset, length, comment := some d.details }] ∧
      offset ≤ e.text.content.length ∧
      (∀ c, source[index]? = some c → c ≠ '\n' →
        length = 1 ∧ e.text.content[offset]? = some c) ∧
      (source[index]? = none ∨ source[index]? = some '\n' →
        length = 0 ∧ offset = e.text.content.length) ∧
      Lists d.details expected ∧
      ∀ told, (∀ t, t ∈ told ↔ t ∈ expected) →
        diagnostic ⟨source, index, told⟩ sourceName kind = .ok d := by
  obtain ⟨before, left, right, after, hline⟩ := exists_lineAt h
  obtain ⟨text, hexcerpt, htext⟩ := excerpt_eq hline expected sourceName
  have hpiece := hline.getElem?_pieces
  have hdiagnostic := diagnostic_natCast h expected sourceName kind
  rw [hexcerpt] at hdiagnostic
  rw [← htext] at hpiece
  refine ⟨_, _, left.length, (right.take 1).length, hdiagnostic, rfl, hpiece, rfl, ?_, ?_, ?_,
    lists_expectedMessage expected, fun told htold => ?_⟩
  · rw [htext, List.length_append]
    exact Nat.le_add_right _ _
  · intro c hc hne
    have hnext := (getElem?_place hline hne).mp hc
    obtain ⟨rest, rfl⟩ := List.head?_eq_some_iff.mp hnext
    refine ⟨rfl, ?_⟩
    rw [htext, List.getElem?_append_right (Nat.le_refl _), Nat.sub_self]
    rfl
  · intro hends
    have hnil : right = [] := by
      cases right with
      | nil => rfl
      | cons c right =>
        have hne : c ≠ '\n' := fun heq => hline.free_right (by simp [heq])
        have hc := (getElem?_place hline hne).mpr rfl
        rw [hc] at hends
        simp [hne] at hends
    rw [htext, hnil, List.append_nil]
    exact ⟨rfl, rfl⟩
  · rw [diagnostic_congr htold, hdiagnostic]

/-- A failure at the end of the first line, where three texts are told out of order, one of them
twice. -/
theorem diagnostic_points_lineEnd :
    2 ≤ "ab\ncd".toList.length ∧ ∃ (d : Diagnostic Severity) (e : Excerpt),
      diagnostic ⟨"ab\ncd".toList, 2, [['y'], "EOF".toList, ['y'], ['x']]⟩ none .error = .ok d ∧
      d.excerpts = [e] ∧ e.text.content = "ab".toList ∧
      e.highlights = [{ line := 0, offset := 2, length := 0, comment := some d.details }] ∧
      d.details = "expected one of EOF, x, y".toList ∧
      diagnostic ⟨"ab\ncd".toList, 2, [['x'], ['y'], "EOF".toList]⟩ none .error = .ok d := by
  obtain ⟨d, e, offset, length, hd, he, hline, hone, -, -, hends, -, htold⟩ :=
    diagnostic_points "ab\ncd".toList 2 (by decide) [['y'], "EOF".toList, ['y'], ['x']] none
      Severity.error
  obtain ⟨rfl, hoffset⟩ := hends (.inr rfl)
  have hab : some "ab".toList = some e.text.content := hline
  obtain rfl : offset = 2 := by rw [hoffset, ← Option.some.inj hab]; rfl
  have hsame := htold [['x'], ['y'], "EOF".toList] (by simp; tauto)
  have hset : sortedSet [['y'], "EOF".toList, ['y'], ['x']] = ["EOF".toList, ['x'], ['y']] :=
    sortedSet_eq (by decide) (by simp; tauto)
  refine ⟨by decide, d, e, hd, he, (Option.some.inj hab).symm, hone, ?_, hsame⟩
  obtain rfl := Except.ok.inj hd
  show expectedMessage [['y'], "EOF".toList, ['y'], ['x']] = _
  rw [expectedMessage, hset]
  rfl

end Failure

end SourceReport.Grammar

import SourceReport.Text.Blank
import SourceReport.Text.Fill.Chunk

namespace SourceReport.Text.Fill

def takeFitting (room : Nat) : List (List Char) → List (List Char) × List (List Char)
  | [] => ([], [])
  | c :: cs =>
    if c.length ≤ room then
      let (fit, rest) := takeFitting (room - c.length) cs
      (c :: fit, rest)
    else ([], c :: cs)

/-- How much of an overlong chunk goes into the room left: all that fits, or less, so as to end
with the last hyphen that has another character before it. -/
def breakLength (room : Nat) (chunk : List Char) : Nat :=
  let shown := chunk.take room
  let upToHyphen := (shown.reverse.dropWhile (· != '-')).length
  if 1 < upToHyphen && (shown.take (upToHyphen - 1)).any (· != '-') then upToHyphen else room

def takeLine (width : Nat) (chunks : List (List Char)) : List (List Char) × List (List Char) :=
  let (fit, rest) := takeFitting width chunks
  match rest with
  | [] => (fit, [])
  | c :: cs =>
    if c.length ≤ width then (fit, c :: cs)
    else
      let n := breakLength (width - fit.flatten.length) c
      (fit ++ [c.take n], c.drop n :: cs)

def dropBlankEnd (line : List (List Char)) : List (List Char) :=
  if line.getLast?.any isBlankText then line.dropLast else line

/-- The chunks to start a line with: a blank one is kept on the first line only. -/
def dropBlankStart (isFirst : Bool) (chunks : List (List Char)) : List (List Char) :=
  if !isFirst && chunks.head?.any isBlankText then chunks.tail else chunks

/-- The size of what is left to fill; each chunk counts one more than its characters. -/
def weight (chunks : List (List Char)) : Nat := chunks.flatten.length + chunks.length

theorem weight_nil : weight [] = 0 := rfl

theorem weight_cons (c : List Char) (cs : List (List Char)) :
    weight (c :: cs) = c.length + 1 + weight cs := by
  simp only [weight, List.flatten_cons, List.length_append, List.length_cons]
  omega

theorem weight_takeFitting (room : Nat) (chunks : List (List Char)) :
    weight (takeFitting room chunks).1 + weight (takeFitting room chunks).2 = weight chunks := by
  induction chunks generalizing room with
  | nil => rfl
  | cons c cs ih =>
    unfold takeFitting
    split
    · have := ih (room - c.length)
      simp only [weight_cons] at this ⊢
      omega
    · rw [weight_nil, Nat.zero_add]

theorem length_flatten_takeFitting (room : Nat) (chunks : List (List Char)) :
    (takeFitting room chunks).1.flatten.length ≤ room := by
  induction chunks generalizing room with
  | nil => simp [takeFitting]
  | cons c cs ih =>
    unfold takeFitting
    split
    · have := ih (room - c.length)
      simp only [List.flatten_cons, List.length_append]
      omega
    · simp

theorem breakLength_pos {room : Nat} (h : 0 < room) (chunk : List Char) :
    0 < breakLength room chunk := by
  simp only [breakLength]
  split
  · rename_i hc
    simp only [Bool.and_eq_true, decide_eq_true_eq] at hc
    omega
  · exact h

theorem weight_takeLine {width : Nat} (hw : 0 < width) {chunks : List (List Char)}
    (h : chunks ≠ []) : weight (takeLine width chunks).2 < weight chunks := by
  have hsum := weight_takeFitting width chunks
  unfold takeLine
  generalize hf : takeFitting width chunks = parts at hsum
  obtain ⟨fit, rest⟩ := parts
  have hfit : rest ≠ [] ∨ fit ≠ [] := by
    cases rest with
    | cons c cs => exact .inl (List.cons_ne_nil c cs)
    | nil =>
      cases fit with
      | cons c cs => exact .inr (List.cons_ne_nil c cs)
      | nil =>
        cases chunks with
        | nil => exact absurd rfl h
        | cons c cs =>
          simp only [weight_nil, weight_cons] at hsum
          omega
  have hpos : fit ≠ [] → 0 < weight fit := by
    intro hn
    cases fit with
    | nil => exact absurd rfl hn
    | cons c cs =>
      simp only [weight_cons]
      omega
  cases rest with
  | nil =>
    have := hpos (hfit.resolve_left (by simp))
    simp only [weight_nil] at hsum this ⊢
    omega
  | cons c cs =>
    dsimp only
    split
    · rename_i hc
      have : fit ≠ [] := by
        rintro rfl
        cases chunks with
        | nil => exact h rfl
        | cons d ds =>
          simp only [takeFitting] at hf
          split at hf
          · simp at hf
          · simp only [Prod.mk.injEq, List.cons.injEq, true_and] at hf
            obtain ⟨rfl, rfl⟩ := hf
            contradiction
      have := hpos this
      dsimp only at hsum ⊢
      omega
    · rename_i hc
      by_cases hn : fit = []
      · subst hn
        have := breakLength_pos hw c
        simp only [weight_nil, weight_cons, List.length_drop, List.flatten_nil, List.length_nil,
          Nat.sub_zero] at hsum ⊢
        omega
      · have := hpos hn
        simp only [weight_cons, List.length_drop] at hsum this ⊢
        omega

theorem weight_dropBlankStart_le (isFirst : Bool) (chunks : List (List Char)) :
    weight (dropBlankStart isFirst chunks) ≤ weight chunks := by
  unfold dropBlankStart
  split
  · cases chunks with
    | nil => exact Nat.le_refl _
    | cons c cs =>
      rw [List.tail_cons, weight_cons]
      omega
  · exact Nat.le_refl _

/-- Fills chunks into lines. No line has more characters than `width`. -/
def fill (width : Nat) (hw : 0 < width) (isFirst : Bool) (chunks : List (List Char)) :
    List (List Char) :=
  match h : dropBlankStart isFirst chunks with
  | [] => []
  | c :: cs =>
    let shown := dropBlankEnd (takeLine width (c :: cs)).1
    let rest := (takeLine width (c :: cs)).2
    have : weight rest < weight chunks := by
      have h1 := weight_takeLine hw (List.cons_ne_nil c cs)
      have h2 := weight_dropBlankStart_le isFirst chunks
      rw [h] at h2
      exact Nat.lt_of_lt_of_le h1 h2
    if shown.isEmpty then fill width hw isFirst rest
    else shown.flatten :: fill width hw false rest
termination_by weight chunks

/-- The lines of a paragraph, none wider than `width`; a width of zero counts as one. -/
def wrap (width : Nat) (s : List Char) : List (List Char) :=
  fill (max 1 width) (by omega) true (chunks s)

end SourceReport.Text.Fill

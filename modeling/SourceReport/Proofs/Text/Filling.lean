import SourceReport.Text.Fill

namespace SourceReport.Text.Fill

theorem takeFitting_append (room : Nat) (chunks : List (List Char)) :
    (takeFitting room chunks).1 ++ (takeFitting room chunks).2 = chunks := by
  induction chunks generalizing room with
  | nil => rfl
  | cons c cs ih =>
    unfold takeFitting
    split
    · simp [ih]
    · rfl

theorem breakLength_le (room : Nat) (chunk : List Char) : breakLength room chunk ≤ room := by
  have hd : ((chunk.take room).reverse.dropWhile (· != '-')).length ≤ (chunk.take room).length := by
    have := ((chunk.take room).reverse.dropWhile_suffix (· != '-')).length_le
    simpa using this
  have ht : (chunk.take room).length ≤ room := List.length_take_le ..
  simp only [breakLength]
  split <;> omega

theorem flatten_takeLine (width : Nat) (chunks : List (List Char)) :
    (takeLine width chunks).1.flatten ++ (takeLine width chunks).2.flatten = chunks.flatten := by
  have happ := takeFitting_append width chunks
  unfold takeLine
  generalize takeFitting width chunks = parts at happ ⊢
  obtain ⟨fit, rest⟩ := parts
  cases rest with
  | nil => simp [← happ]
  | cons c cs =>
    dsimp only at happ ⊢
    split
    · simp [← happ]
    · simp only [← happ, List.flatten_append, List.flatten_cons, List.flatten_nil,
        List.append_nil, List.append_assoc]
      rw [← List.append_assoc (List.take _ c), List.take_append_drop]

theorem length_takeLine_le (width : Nat) (chunks : List (List Char)) :
    (takeLine width chunks).1.flatten.length ≤ width := by
  have hfit := length_flatten_takeFitting width chunks
  unfold takeLine
  generalize takeFitting width chunks = parts at hfit ⊢
  obtain ⟨fit, rest⟩ := parts
  cases rest with
  | nil => exact hfit
  | cons c cs =>
    dsimp only at hfit ⊢
    split
    · exact hfit
    · have hb := breakLength_le (width - fit.flatten.length) c
      simp only [List.flatten_append, List.flatten_singleton, List.length_append, List.length_take]
      omega

theorem isBlankText_append (s t : List Char) :
    isBlankText (s ++ t) = (isBlankText s && isBlankText t) := List.all_append

theorem dropBlankEnd_append (line : List (List Char)) :
    ∃ blank, dropBlankEnd line ++ blank = line ∧ isBlankText blank.flatten = true := by
  unfold dropBlankEnd
  split
  · rename_i hc
    cases hl : line.getLast? with
    | none => simp [hl] at hc
    | some d =>
      obtain ⟨before, rfl⟩ := List.getLast?_eq_some_iff.mp hl
      exact ⟨[d], by simp, by simpa [hl] using hc⟩
  · exact ⟨[], by simp, rfl⟩

theorem dropBlankStart_append (isFirst : Bool) (chunks : List (List Char)) :
    ∃ blank, blank ++ dropBlankStart isFirst chunks = chunks ∧
      isBlankText blank.flatten = true := by
  unfold dropBlankStart
  split
  · rename_i hc
    cases chunks with
    | nil => simp at hc
    | cons d ds =>
      have hd := (Bool.and_eq_true_iff.mp hc).2
      exact ⟨[d], by simp, by simpa using hd⟩
  · exact ⟨[], by simp, rfl⟩

theorem length_le_of_mem_fill (width : Nat) (hw : 0 < width) (isFirst : Bool)
    (chunks : List (List Char)) :
    ∀ line ∈ fill width hw isFirst chunks, line.length ≤ width := by
  fun_induction fill width hw isFirst chunks with
  | case1 => simp
  | case2 isFirst chunks c cs h shown rest hlt hempty ih => exact ih
  | case3 isFirst chunks c cs h shown rest hlt hne ih =>
    intro line hl
    rcases List.mem_cons.mp hl with rfl | hl
    · obtain ⟨blank, happ, _⟩ := dropBlankEnd_append (takeLine width (c :: cs)).1
      have hlen := length_takeLine_le width (c :: cs)
      rw [← happ, List.flatten_append, List.length_append] at hlen
      change shown.flatten.length + _ ≤ width at hlen
      omega
    · exact ih line hl

theorem length_le_of_mem_wrap (width : Nat) (s : List Char) :
    ∀ line ∈ wrap width s, line.length ≤ max 1 width :=
  length_le_of_mem_fill _ _ _ _

theorem mem_of_mem_fill {width : Nat} (hw : 0 < width) (isFirst : Bool)
    {chunks : List (List Char)} {line : List Char} (hl : line ∈ fill width hw isFirst chunks) :
    ∀ x ∈ line, x ∈ chunks.flatten := by
  fun_induction fill width hw isFirst chunks with
  | case1 => cases hl
  | case2 isFirst chunks c cs h shown rest hlt hempty ih =>
    obtain ⟨start, hstart, -⟩ := dropBlankStart_append isFirst chunks
    intro x hx
    have hmem : x ∈ rest.flatten := ih hl x hx
    rw [← hstart, h, List.flatten_append, ← flatten_takeLine width (c :: cs)]
    exact List.mem_append_right _ (List.mem_append_right _ hmem)
  | case3 isFirst chunks c cs h shown rest hlt hne ih =>
    obtain ⟨start, hstart, -⟩ := dropBlankStart_append isFirst chunks
    obtain ⟨stop, hstop, -⟩ := dropBlankEnd_append (takeLine width (c :: cs)).1
    change shown ++ stop = _ at hstop
    intro x hx
    rw [← hstart, h, List.flatten_append, ← flatten_takeLine width (c :: cs), ← hstop,
      List.flatten_append]
    apply List.mem_append_right
    rcases List.mem_cons.mp hl with rfl | hl
    · exact List.mem_append_left _ (List.mem_append_left _ hx)
    · exact List.mem_append_right _ (ih hl x hx)

theorem mem_of_mem_wrap {width : Nat} {s line : List Char} (hl : line ∈ wrap width s) :
    ∀ x ∈ line, x ∈ s := by
  intro x hx
  rw [← flatten_chunks s]
  exact mem_of_mem_fill _ _ hl x hx

theorem fill_ne_nil (width : Nat) (hw : 0 < width) (isFirst : Bool) (chunks : List (List Char))
    (h : isBlankText chunks.flatten = false) : fill width hw isFirst chunks ≠ [] := by
  fun_induction fill width hw isFirst chunks with
  | case1 isFirst chunks hnil =>
    obtain ⟨blank, happ, hblank⟩ := dropBlankStart_append isFirst chunks
    rw [hnil, List.append_nil] at happ
    rw [← happ, hblank] at h
    contradiction
  | case2 isFirst chunks c cs hcons shown rest hlt hempty ih =>
    apply ih
    obtain ⟨start, hstart, hstartBlank⟩ := dropBlankStart_append isFirst chunks
    obtain ⟨stop, hstop, hstopBlank⟩ := dropBlankEnd_append (takeLine width (c :: cs)).1
    have hshown : shown = [] := List.isEmpty_iff.mp hempty
    change shown ++ stop = _ at hstop
    rw [hshown, List.nil_append] at hstop
    rw [← hstart, List.flatten_append, isBlankText_append, hstartBlank, Bool.true_and, hcons,
      ← flatten_takeLine width, isBlankText_append, ← hstop, hstopBlank, Bool.true_and] at h
    exact h
  | case3 => simp

theorem wrap_ne_nil (width : Nat) {s : List Char} (h : isBlankText s = false) :
    wrap width s ≠ [] := by
  apply fill_ne_nil
  rwa [flatten_chunks]

def ink (s : List Char) : List Char := s.filter fun c => !isBlank c

theorem ink_append (s t : List Char) : ink (s ++ t) = ink s ++ ink t := List.filter_append s t

theorem ink_of_isBlankText {s : List Char} (h : isBlankText s = true) : ink s = [] := by
  refine List.filter_eq_nil_iff.mpr fun c hc => ?_
  simp [List.all_eq_true.mp h c hc]

theorem ink_dropBlankEnd (line : List (List Char)) :
    ink (dropBlankEnd line).flatten = ink line.flatten := by
  obtain ⟨stop, hstop, hblank⟩ := dropBlankEnd_append line
  have hline := congrArg (fun line => ink line.flatten) hstop
  simpa [ink_append, ink_of_isBlankText hblank] using hline

theorem ink_dropBlankStart (isFirst : Bool) (chunks : List (List Char)) :
    ink (dropBlankStart isFirst chunks).flatten = ink chunks.flatten := by
  obtain ⟨start, hstart, hblank⟩ := dropBlankStart_append isFirst chunks
  have hchunks := congrArg (fun chunks => ink chunks.flatten) hstart
  simpa [ink_append, ink_of_isBlankText hblank] using hchunks

theorem ink_flatten_fill (width : Nat) (hw : 0 < width) (isFirst : Bool)
    (chunks : List (List Char)) :
    ink (fill width hw isFirst chunks).flatten = ink chunks.flatten := by
  -- what a line does not take is left for the next
  have hline (chunks : List (List Char)) :
      ink (dropBlankEnd (takeLine width chunks).1).flatten ++
        ink (takeLine width chunks).2.flatten = ink chunks.flatten := by
    rw [ink_dropBlankEnd, ← ink_append, flatten_takeLine]
  fun_induction fill width hw isFirst chunks with
  | case1 isFirst chunks hnil =>
    rw [← ink_dropBlankStart isFirst chunks, hnil]
  | case2 isFirst chunks c cs h shown rest hlt hempty ih =>
    have hshown : ink shown.flatten = [] := by
      rw [List.isEmpty_iff.mp hempty]
      rfl
    rw [ih, ← ink_dropBlankStart isFirst chunks, h, ← hline (c :: cs)]
    change _ = ink shown.flatten ++ ink rest.flatten
    rw [hshown, List.nil_append]
  | case3 isFirst chunks c cs h shown rest hlt hne ih =>
    rw [List.flatten_cons, ink_append, ih, ← ink_dropBlankStart isFirst chunks, h,
      ← hline (c :: cs)]

/-- Filling a paragraph leaves out nothing but white space, adds nothing, and keeps the order. -/
theorem ink_flatten_wrap (width : Nat) (s : List Char) : ink (wrap width s).flatten = ink s := by
  rw [wrap, ink_flatten_fill, flatten_chunks]

end SourceReport.Text.Fill

import SourceReport.Text.CharClass.Numbers
import SourceReport.Text.Blank

namespace SourceReport.Text.Fill

def isWordLetter (c : Char) : Bool := isWordChar c && !isDecimal c

def endsWord (c : Char) : Bool :=
  isWordChar c || c == '!' || c == '\x22' || c == '\x27' || c == '&' || c == '.' || c == ',' ||
    c == '?'

def startsDash (rest : List Char) : Bool :=
  decide (2 ≤ (rest.takeWhile (· == '-')).length) &&
    (rest.dropWhile (· == '-')).head?.any isWordChar

/-- Whether a dash stands between the characters before, nearest first, and those to come. -/
def dashHere (before rest : List Char) : Bool := before.head?.any endsWord && startsDash rest

/-- Whether a hyphen may be followed by a new line: two letters come before it, or a letter, a
hyphen and a letter. -/
def joinsBefore : List Char → Bool
  | a :: b :: more =>
    isWordLetter a && (isWordLetter b || (b == '-' && more.head?.any isWordLetter))
  | _ => false

/-- The same on the other side of the hyphen: two letters, with at most one hyphen between. -/
def joinsAfter : List Char → Bool
  | a :: '-' :: b :: _ => isWordLetter a && isWordLetter b
  | a :: b :: _ => isWordLetter a && isWordLetter b
  | _ => false

/-- Cuts the rest of a word off, given the characters before, nearest first. -/
def takeWord (before : List Char) : List Char → List Char × List Char
  | [] => ([], [])
  | c :: cs =>
    if c == '-' && joinsBefore before && joinsAfter cs then ([c], cs)
    else if isPlainBlank c || dashHere before (c :: cs) then ([], c :: cs)
    else
      let (word, rest) := takeWord (c :: before) cs
      (c :: word, rest)

def chunkTail (before : List Char) (c : Char) (cs : List Char) : List Char × List Char :=
  if isPlainBlank c then (cs.takeWhile isPlainBlank, cs.dropWhile isPlainBlank)
  else if dashHere before (c :: cs) then (cs.takeWhile (· == '-'), cs.dropWhile (· == '-'))
  else takeWord (c :: before) cs

theorem takeWord_append (before s : List Char) :
    (takeWord before s).1 ++ (takeWord before s).2 = s := by
  induction s generalizing before with
  | nil => rfl
  | cons c cs ih =>
    unfold takeWord
    split
    · rfl
    · split
      · rfl
      · simpa using ih (c :: before)

theorem chunkTail_append (before : List Char) (c : Char) (cs : List Char) :
    (chunkTail before c cs).1 ++ (chunkTail before c cs).2 = cs := by
  unfold chunkTail
  split
  · exact List.takeWhile_append_dropWhile
  · split
    · exact List.takeWhile_append_dropWhile
    · exact takeWord_append _ _

theorem length_chunkTail_le (before : List Char) (c : Char) (cs : List Char) :
    (chunkTail before c cs).2.length ≤ cs.length := by
  have h := congrArg List.length (chunkTail_append before c cs)
  rw [List.length_append] at h
  omega

def chunksAfter (before : List Char) : List Char → List (List Char)
  | [] => []
  | c :: cs =>
    let parts := chunkTail before c cs
    (c :: parts.1) :: chunksAfter (parts.1.reverse ++ c :: before) parts.2
termination_by s => s.length
decreasing_by
  have := length_chunkTail_le before c cs
  simp only [List.length_cons]
  omega

def chunks (s : List Char) : List (List Char) := chunksAfter [] s

theorem flatten_chunksAfter (before s : List Char) : (chunksAfter before s).flatten = s := by
  fun_induction chunksAfter before s with
  | case1 => rfl
  | case2 before c cs parts ih =>
    simp only [List.flatten_cons, ih, List.cons_append]
    rw [chunkTail_append]

theorem flatten_chunks (s : List Char) : (chunks s).flatten = s := flatten_chunksAfter [] s

end SourceReport.Text.Fill

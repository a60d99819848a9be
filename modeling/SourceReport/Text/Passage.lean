namespace SourceReport.Text

structure Window where
  buffer : List Char
  start : Nat
  stop : Nat
  start_le_stop : start ≤ stop := by omega
  stop_le_length : stop ≤ buffer.length := by omega

namespace Window

def startWithin (length : Nat) (start : Int) : Nat := (max 0 (min start length)).toNat

def stopWithin (length first : Nat) : Option Int → Nat
  | none => length
  | some stop => max first (min stop length).toNat

theorem startWithin_le (length : Nat) (start : Int) : startWithin length start ≤ length := by
  unfold startWithin
  omega

theorem le_stopWithin {length first : Nat} (h : first ≤ length) (stop : Option Int) :
    first ≤ stopWithin length first stop := by
  cases stop with
  | none => exact h
  | some stop => exact Nat.le_max_left _ _

theorem stopWithin_le {length first : Nat} (h : first ≤ length) (stop : Option Int) :
    stopWithin length first stop ≤ length := by
  cases stop with
  | none => exact Nat.le_refl _
  | some stop =>
    change max first (min stop length).toNat ≤ length
    omega

/-- The window closest to the bounds given: the start is held inside the buffer, and the stop
between the start and the buffer's end. Without a stop the window reaches to the end. -/
def clamp (buffer : List Char) (start : Int) (stop : Option Int) : Window :=
  let first := startWithin buffer.length start
  { buffer, start := first, stop := stopWithin buffer.length first stop
    start_le_stop := le_stopWithin (startWithin_le buffer.length start) stop
    stop_le_length := stopWithin_le (startWithin_le buffer.length start) stop }

def content (w : Window) : List Char := (w.buffer.take w.stop).drop w.start

def length (w : Window) : Nat := w.stop - w.start

theorem length_content (w : Window) : w.content.length = w.length := by
  have := w.stop_le_length
  simp only [content, length, List.length_drop, List.length_take]
  omega

end Window

inductive Passage where
  | owned (chars : List Char)
  | borrowed (window : Window)

namespace Passage

def content : Passage → List Char
  | owned chars => chars
  | borrowed window => window.content

def length : Passage → Nat
  | owned chars => chars.length
  | borrowed window => window.length

def toOwned (p : Passage) : Passage := owned p.content

def isEmpty (p : Passage) : Bool := p.length == 0

def isOwned : Passage → Bool
  | owned _ => true
  | borrowed _ => false

instance : Inhabited Passage := ⟨owned []⟩
instance : BEq Passage := ⟨fun p q => p.content == q.content⟩
instance : Hashable Passage := ⟨fun p => hash (String.ofList p.content)⟩

theorem beq_iff {p q : Passage} : (p == q) = true ↔ p.content = q.content := by
  show (p.content == q.content) = true ↔ _
  exact beq_iff_eq

@[simp] theorem content_toOwned (p : Passage) : p.toOwned.content = p.content := rfl

@[simp] theorem length_content (p : Passage) : p.content.length = p.length := by
  cases p with
  | owned _ => rfl
  | borrowed w => exact w.length_content

end Passage

end SourceReport.Text

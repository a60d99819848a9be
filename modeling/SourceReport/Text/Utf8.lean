namespace SourceReport.Text.Utf8

def tailBits? (b : UInt8) : Option Nat :=
  if 0x80 ≤ b ∧ b ≤ 0xBF then some (b.toNat - 0x80) else none

/-- The character of a lead byte's bits and the bytes that continue it, unless fewer bytes would do
or the number is no character's. -/
def assemble? (least lead : Nat) (tail : List UInt8) : Option Char := do
  let n ← tail.foldlM (fun n b => (tailBits? b).map (n * 0x40 + ·)) lead
  if least ≤ n ∧ n.isValidChar then return Char.ofNat n else none

def decode? : List UInt8 → Option (List Char)
  | [] => some []
  | b :: rest =>
    if b < 0x80 then (decode? rest).map (Char.ofNat b.toNat :: ·)
    else if 0xC2 ≤ b ∧ b ≤ 0xDF then
      match rest with
      | c :: rest => do return (← assemble? 0x80 (b.toNat - 0xC0) [c]) :: (← decode? rest)
      | _ => none
    else if 0xE0 ≤ b ∧ b ≤ 0xEF then
      match rest with
      | c :: d :: rest => do return (← assemble? 0x800 (b.toNat - 0xE0) [c, d]) :: (← decode? rest)
      | _ => none
    else if 0xF0 ≤ b ∧ b ≤ 0xF4 then
      match rest with
      | c :: d :: e :: rest => do
        return (← assemble? 0x10000 (b.toNat - 0xF0) [c, d, e]) :: (← decode? rest)
      | _ => none
    else none

end SourceReport.Text.Utf8

namespace SourceReport.Text

/-- A text with every line break, of whatever form, as one line feed. -/
def unifyBreaks : List Char → List Char
  | '\r' :: '\n' :: rest => '\n' :: unifyBreaks rest
  | '\r' :: rest => '\n' :: unifyBreaks rest
  | c :: rest => c :: unifyBreaks rest
  | [] => []

end SourceReport.Text

import SourceReport.Text.Blank
import SourceReport.Text.CharClass.Numbers

namespace SourceReport.Text

def readDigits (value : Nat) : List Char → Option Nat
  | [] => some value
  | '_' :: c :: cs => (decimalValue? c).bind fun d => readDigits (10 * value + d) cs
  | c :: cs => (decimalValue? c).bind fun d => readDigits (10 * value + d) cs

/-- The most digits that a number is read from. -/
def mostDigits : Nat := 4300

/-- Reads digits, the first of which no underscore precedes, unless there are too many. -/
def readNatural? : List Char → Option Nat
  | [] => none
  | c :: cs =>
    if mostDigits < (c :: cs).countP (· != '_') then none
    else (decimalValue? c).bind fun d => readDigits d cs

/-- Whether a character may stand around a number: white space, but for the separators of records
and fields. -/
def isPadding (c : Char) : Bool := isBlank c && !(0x1C ≤ c.toNat && c.toNat ≤ 0x1F)

def readInteger? (s : List Char) : Option Int :=
  match ((s.dropWhile isPadding).reverse.dropWhile isPadding).reverse with
  | '-' :: cs => (readNatural? cs).map fun n => -(n : Int)
  | '+' :: cs => (readNatural? cs).map fun n => (n : Int)
  | cs => (readNatural? cs).map fun n => (n : Int)

example : readInteger? [' ', '-', '1', '_', '0'] = some (-10) := by decide
example : readInteger? ['1', '_', '_', '0'] = none := by decide

end SourceReport.Text

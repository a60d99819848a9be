import SourceReport.Glyphs
import SourceReport.Text.Decimal
import SourceReport.Text.Quoted
import SourceReport.Text.Numeral
import SourceReport.Text.CharClass.Case

namespace SourceReport
open Text

structure Options where
  maxColumns : Nat := 100
  ascii : Bool := false
  colour : Bool := false
  htmlColumns : Nat := 195
  le_maxColumns : 20 ≤ maxColumns := by decide
  le_htmlColumns : 20 ≤ htmlColumns := by decide

abbrev Environment := List (List Char × List Char)

namespace Options

inductive Error where
  | fewColumns (columns : Int)
  | fewMarkupColumns (columns : Int)
  | notANumber (setting : List Char)

def columnsKey : List Char := "CUSTOM_ERROR_COLUMNS".toList

def Error.message : Error → List Char
  | fewColumns n => "max_columns must be at least 20, got ".toList ++ decimal n
  | fewMarkupColumns n => "html_columns must be at least 20, got ".toList ++ decimal n
  | notANumber s => columnsKey ++ " is not a number: ".toList ++ quoted s

instance : Inhabited Options := ⟨{}⟩

/-- Options with the widths given, or the first of the widths that is too small. -/
def make (maxColumns : Int) (ascii colour : Bool) (htmlColumns : Int) : Except Error Options :=
  if hm : maxColumns < 20 then .error (.fewColumns maxColumns)
  else if hh : htmlColumns < 20 then .error (.fewMarkupColumns htmlColumns)
  else .ok
    { maxColumns := maxColumns.toNat, ascii, colour, htmlColumns := htmlColumns.toNat
      le_maxColumns := by omega
      le_htmlColumns := by omega }

def glyphs (o : Options) : Glyphs := if o.ascii then .ascii else .unicode

def withAscii (o : Options) (ascii : Bool) : Options := { o with ascii }

def withColour (o : Options) (colour : Bool) : Options := { o with colour }

def withMaxColumns (o : Options) (columns : Int) : Except Error Options :=
  make columns o.ascii o.colour o.htmlColumns

def isTrueWord (s : List Char) : Bool :=
  ["1".toList, "true".toList, "yes".toList, "on".toList].contains ((trim s).map toLower)

/-- Options from the environment: one name forbids colour, one asks for it, one chooses ASCII and
one sets the columns. A blank column setting counts as none. -/
def ofEnvironment (env : Environment) : Except Error Options := do
  let colour := (env.lookup "FORCE_COLOR".toList).isSome && (env.lookup "NO_COLOR".toList).isNone
  let ascii := isTrueWord ((env.lookup "CUSTOM_ERROR_ASCII".toList).getD [])
  let columns := trim ((env.lookup columnsKey).getD [])
  if columns.isEmpty then
    return { ascii, colour }
  match readInteger? columns with
  | none => throw (.notANumber columns)
  | some n => make n ascii colour 195

end Options

end SourceReport

import FieldValidation.Unicode.CasedTable
import FieldValidation.Unicode.CaseTable
import FieldValidation.Unicode.CategoryTable
import FieldValidation.Unicode.GraphemeTable
import FieldValidation.Unicode.LetterTable
import FieldValidation.Unicode.Runs
import FieldValidation.Unicode.ScriptTable
import FieldValidation.Unicode.SymbolTable

/-!
# Properties of characters

The properties of Unicode characters by name: general categories, scripts and the properties that
a character has or has not.

## Main definitions

* `category?`, `script?`, `scriptExtensions?`, `binaryProperty?`: the code points of a property
-/

namespace FieldValidation.Unicode

/-- The general categories and their groups by name, with the categories that belong to them. -/
def categoryNames : List (List String × List String) :=
  [(["Cased_Letter", "LC"], ["Lu", "Ll", "Lt"]),
   (["Close_Punctuation", "Pe"], ["Pe"]),
   (["Connector_Punctuation", "Pc"], ["Pc"]),
   (["Control", "Cc", "cntrl"], ["Cc"]),
   (["Currency_Symbol", "Sc"], ["Sc"]),
   (["Dash_Punctuation", "Pd"], ["Pd"]),
   (["Decimal_Number", "Nd", "digit"], ["Nd"]),
   (["Enclosing_Mark", "Me"], ["Me"]),
   (["Final_Punctuation", "Pf"], ["Pf"]),
   (["Format", "Cf"], ["Cf"]),
   (["Initial_Punctuation", "Pi"], ["Pi"]),
   (["Letter", "L"], ["Lu", "Ll", "Lt", "Lm", "Lo"]),
   (["Letter_Number", "Nl"], ["Nl"]),
   (["Line_Separator", "Zl"], ["Zl"]),
   (["Lowercase_Letter", "Ll"], ["Ll"]),
   (["Mark", "M", "Combining_Mark"], ["Mn", "Mc", "Me"]),
   (["Math_Symbol", "Sm"], ["Sm"]),
   (["Modifier_Letter", "Lm"], ["Lm"]),
   (["Modifier_Symbol", "Sk"], ["Sk"]),
   (["Nonspacing_Mark", "Mn"], ["Mn"]),
   (["Number", "N"], ["Nd", "Nl", "No"]),
   (["Open_Punctuation", "Ps"], ["Ps"]),
   (["Other", "C"], ["Cc", "Cf", "Cs", "Co", "Cn"]),
   (["Other_Letter", "Lo"], ["Lo"]),
   (["Other_Number", "No"], ["No"]),
   (["Other_Punctuation", "Po"], ["Po"]),
   (["Other_Symbol", "So"], ["So"]),
   (["Paragraph_Separator", "Zp"], ["Zp"]),
   (["Private_Use", "Co"], ["Co"]),
   (["Punctuation", "P", "punct"], ["Pc", "Pd", "Ps", "Pe", "Pi", "Pf", "Po"]),
   (["Separator", "Z"], ["Zs", "Zl", "Zp"]),
   (["Space_Separator", "Zs"], ["Zs"]),
   (["Spacing_Mark", "Mc"], ["Mc"]),
   (["Surrogate", "Cs"], ["Cs"]),
   (["Symbol", "S"], ["Sm", "Sc", "Sk", "So"]),
   (["Titlecase_Letter", "Lt"], ["Lt"]),
   (["Unassigned", "Cn"], ["Cn"]),
   (["Uppercase_Letter", "Lu"], ["Lu"])]

/-- The code points of a general category or of a group of them. -/
def category? (name : String) : Option (List (Nat × Nat)) :=
  (categoryNames.find? (·.1.contains name)).map fun (_, members) =>
    rangesOfLabelledRuns members.contains 0 (words categoryRuns)

/-- The short name of a script. -/
def shortScriptName? (name : String) : Option String :=
  (scriptNames.find? fun (short, others) => short == name || others.contains name).map (·.1)

/-- The code points of a script. -/
def script? (name : String) : Option (List (Nat × Nat)) :=
  (shortScriptName? name).map fun short =>
    rangesOfLabelledRuns (· == short) 0 (words scriptRuns)

/-- The code points that are used with a script, as far as they are told of apart from their own
script. -/
def extendedInto (short : String) : List (Nat × Nat) :=
  rangesOfSparseRuns (·.contains short) 0 (words scriptExtensionRuns)

/-- The code points that are told of apart from their own script. -/
def extended : List (Nat × Nat) := rangesOfSparseRuns (fun _ => true) 0 (words scriptExtensionRuns)

/-- The code points of a property that a character has or has not, where a table tells it. -/
def tabledProperty? (name : String) : Option (List (Nat × Nat)) :=
  ((letterProperties ++ caseProperties ++ graphemeProperties ++ symbolProperties).find?
    (·.1.contains name)).map fun (_, runs) => rangesOfRuns 0 false (words runs)

/-- The code points of a property that a character has or has not. -/
def binaryProperty? (name : String) : Option (List (Nat × Nat)) :=
  if name = "Any" then some [(0, 0x10FFFF)]
  else if name = "ASCII" then some [(0, 0x7F)]
  else if name = "Assigned" then
    some (rangesOfLabelledRuns (· != "Cn") 0 (words categoryRuns))
  else if name = "Cased" then some casedRanges
  else if ["Case_Ignorable", "CI"].contains name then some caseIgnorableRanges
  else tabledProperty? name

end FieldValidation.Unicode

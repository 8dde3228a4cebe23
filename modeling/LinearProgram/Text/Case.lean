namespace LinearProgram.Text

/-!
# Letter case
-/

/-- A text with its ASCII capitals turned into small letters. -/
def lowercase (text : String) : String :=
  String.ofList (text.toList.map Char.toLower)

end LinearProgram.Text

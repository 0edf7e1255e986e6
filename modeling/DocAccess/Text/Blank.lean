import DocAccess.Text.CodeSet

/-!
# Blank characters

The `White_Space` property of Unicode, and trimming by it.
-/

namespace DocAccess.Text

/-- Code points with the `White_Space` property. -/
def blankSet : CodeSet where
  edges := #[9, 14, 32, 33, 133, 134, 160, 161, 5760, 5761, 8192, 8203, 8232, 8234, 8239, 8240, 8287, 8288,
    12288, 12289]

/-- Whether a character is blank. -/
def isBlank (c : Char) : Bool := blankSet.has c

/-- A text without the blanks at both of its ends. -/
def trim (text : String) : String :=
  String.ofList (((text.toList.dropWhile isBlank).reverse.dropWhile isBlank).reverse)

end DocAccess.Text

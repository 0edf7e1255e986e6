import DocAccess.Text.Words

/-!
# Plain names

Names of lowercase and uppercase ASCII letters, digits and underscores.
-/

namespace DocAccess.Text

/-- Whether a character may open a plain name. -/
def isNameStart (c : Char) : Bool := c.isAlpha || c == '_'

/-- Whether a character may continue a plain name. -/
def isNamePart (c : Char) : Bool := c.isAlphanum || c == '_'

/-- Whether a text is a plain name other than a lone underscore. -/
def isPlainName (text : String) : Bool :=
  match text.toList with
  | [] => false
  | c :: rest => isNameStart c && !(c == '_' && rest.isEmpty) && rest.all isNamePart

/-- Whether a text is a plain name without uppercase letters. -/
def isLowercaseName (text : String) : Bool :=
  isPlainName text && !text.toList.any Char.isUpper

/-- The pieces of a text between separators. -/
def splitOn (separator : Char) : List Char → List (List Char)
  | [] => [[]]
  | c :: rest =>
      if c = separator then [] :: splitOn separator rest
      else
        match splitOn separator rest with
        | [] => [[c]]
        | piece :: pieces => (c :: piece) :: pieces

/-- The pieces of a text between slashes, without the empty ones. -/
def segments (path : String) : List String :=
  ((splitOn '/' path.toList).filter (!·.isEmpty)).map String.ofList

end DocAccess.Text

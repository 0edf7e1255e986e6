import DocAccess.Text.Case
import DocAccess.Text.Cluster

/-!
# Words of a name and the spelling of names

A name falls into words at underscores, hyphens and spaces, which are dropped, and between two
clusters whose kinds change: from lowercase to uppercase, between a letter and a digit, and before
the last capital of a run of capitals that a lowercase cluster follows.  Words may be empty, so a
leading underscore survives in `snakeCase`.
-/

namespace DocAccess.Text

/-- The kind of a cluster, as far as the splitting of names looks at it. -/
inductive WordKind where
  | separator
  | lowercase
  | uppercase
  | digit
  | other
  deriving DecidableEq

/-- The kind of a cluster. -/
def wordKind (cluster : List Char) : WordKind :=
  if cluster == ['_'] || cluster == ['-'] || cluster == [' '] then .separator
  else if cluster.all Char.isDigit then .digit
  else
    let up := upper cluster
    let low := lower cluster
    if up == low then .other
    else if cluster == up then .uppercase
    else if cluster == low then .lowercase
    else .other

/-- Whether a word ends between two neighbours, the kind after them being `following`. -/
def splitsBetween (first second : WordKind) (following : Option WordKind) : Bool :=
  match first, second with
  | .lowercase, .uppercase => true
  | .uppercase, .uppercase => following == some .lowercase
  | .lowercase, .digit | .uppercase, .digit | .digit, .lowercase | .digit, .uppercase => true
  | _, _ => false

/-- The words of the clusters to come; `reading` is the word being read, last cluster first. -/
def wordsFrom (reading : List (List Char)) : List (List Char) → List (List (List Char))
  | [] => [reading.reverse]
  | cluster :: rest =>
      if wordKind cluster == .separator then reading.reverse :: wordsFrom [] rest
      else
        match rest with
        | [] => [(cluster :: reading).reverse]
        | next :: after =>
            if splitsBetween (wordKind cluster) (wordKind next) (after.head?.map wordKind) then
              (cluster :: reading).reverse :: wordsFrom [] (next :: after)
            else wordsFrom (cluster :: reading) (next :: after)

/-- The words of a name, each a list of clusters. -/
def words (text : String) : List (List (List Char)) := wordsFrom [] (clusters text.toList)

/-- A word with its first cluster in uppercase and the rest in lowercase. -/
def capitalWord : List (List Char) → List Char
  | [] => []
  | cluster :: rest => upper cluster ++ lower rest.flatten

/-- The name of a type: capital words without anything between them. -/
def pascalCase (text : String) : String :=
  String.ofList ((words text).flatMap capitalWord)

/-- The name of a variable: lowercase words with underscores between them. -/
def snakeCase (text : String) : String :=
  "_".intercalate ((words text).map fun word => String.ofList (lower word.flatten))

/-- A text with its first character in uppercase and the rest as it is. -/
def capitalize (text : String) : String :=
  match text.toList with
  | [] => ""
  | c :: rest => String.ofList (upperChar c ++ rest)

end DocAccess.Text

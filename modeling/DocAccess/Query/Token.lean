import DocAccess.Text.Case

/-!
# Tokens of a query

The words, literals and marks that a query text is cut into.  Blanks and comments are no tokens.
-/

namespace DocAccess.Query

open DocAccess.Text

/-- An identifier with the quotation mark it was written in. -/
structure Ident where
  text : String
  quote : Option Char
  deriving DecidableEq, Repr

/-- The form of a string literal. -/
inductive StringForm where
  | single
  | escaped
  | unicode
  | national
  | hexadecimal
  /-- A form with a letter in front of a run of quotation marks. -/
  | lettered (letter : Char) (mark : String)
  /-- A text between two dollar tags. -/
  | dollar (tag : String)
  deriving DecidableEq, Repr

/-- A token of a query. -/
inductive Token where
  /-- A word, with the keyword it may stand for: its uppercase text, or nothing if it is quoted. -/
  | word (ident : Ident) (keyword : String)
  | number (text : String) (long : Bool)
  | string (form : StringForm) (text : String)
  | placeholder (text : String)
  | mark (text : String)
  /-- A character that opens no token. -/
  | stray (c : Char)
  deriving DecidableEq, Repr

namespace Token

/-- The token of an unquoted word. -/
def ofWord (cs : List Char) : Token :=
  .word ⟨String.ofList cs, none⟩ (String.ofList (upper cs))

/-- The token of a quoted word. -/
def ofQuoted (quote : Char) (cs : List Char) : Token := .word ⟨String.ofList cs, some quote⟩ ""

end Token

/-! ### Display -/

/-- A text with the quotation marks inside it doubled.  A mark behind a backslash stays single, and
two marks in a row count as doubled already. -/
def doubled (quote : Char) (previous : Char) : List Char → List Char
  | [] => []
  | c :: rest =>
      if c == quote then
        if previous == '\\' then c :: doubled quote previous rest
        else
          match rest with
          | d :: after => if d == quote then c :: c :: doubled quote c after
              else c :: c :: doubled quote c (d :: after)
          | [] => [c, c]
      else c :: doubled quote c rest

/-- A text between quotation marks. -/
def quotedWith (quote : Char) (text : String) : String :=
  String.ofList (quote :: (doubled quote (Char.ofNat 0) text.toList ++ [quote]))

/-- The display of an identifier. -/
def Ident.display (ident : Ident) : String :=
  match ident.quote with
  | some quote => quotedWith quote ident.text
  | none => ident.text

/-- The display of a dotted name. -/
def displayName (name : List Ident) : String := ".".intercalate (name.map Ident.display)

/-- A character of a string with escapes. -/
def escapedForm (c : Char) : List Char :=
  if c == '\'' then ['\\', '\'']
  else if c == '\\' then ['\\', '\\']
  else if c == '\n' then ['\\', 'n']
  else if c == '\t' then ['\\', 't']
  else if c == '\r' then ['\\', 'r']
  else [c]

/-- The uppercase hexadecimal digits of a number, at least `width` of them. -/
def paddedHex (width n : Nat) : List Char :=
  let digits := (Nat.toDigits 16 n).map Char.toUpper
  List.replicate (width - digits.length) '0' ++ digits

/-- A character of a string of code points. -/
def unicodeForm (c : Char) : List Char :=
  if c == '\'' then ['\'', '\'']
  else if c == '\\' then ['\\', '\\']
  else if c.toNat < 128 then [c]
  else if c.toNat ≤ 0xFFFF then '\\' :: paddedHex 4 c.toNat
  else '\\' :: '+' :: paddedHex 6 c.toNat

/-- The display of a string literal. -/
def StringForm.display (form : StringForm) (text : String) : String :=
  match form with
  | .single => quotedWith '\'' text
  | .escaped => "E'" ++ String.ofList (text.toList.flatMap escapedForm) ++ "'"
  | .unicode => "U&'" ++ String.ofList (text.toList.flatMap unicodeForm) ++ "'"
  | .national => "N'" ++ text ++ "'"
  | .hexadecimal => "X'" ++ text ++ "'"
  | .lettered letter mark => String.ofList [letter] ++ mark ++ text ++ mark
  | .dollar tag => "$" ++ tag ++ "$" ++ text ++ "$" ++ tag ++ "$"

/-- The display of a token. -/
def Token.display : Token → String
  | .word ident _ => ident.display
  | .number text long => text ++ (if long then "L" else "")
  | .string form text => form.display text
  | .placeholder text => text
  | .mark text => text
  | .stray c => String.ofList [c]

end DocAccess.Query

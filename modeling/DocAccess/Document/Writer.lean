import DocAccess.Document.Value

/-!
# The text of a document

Compact text: no blanks, fields in the order kept, characters beyond ASCII as they are.
-/

namespace DocAccess.Document

/-- A character within the quotes of a string. -/
def escapedChar (c : Char) : List Char :=
  if c == '"' then ['\\', '"']
  else if c == '\\' then ['\\', '\\']
  else if c == '\n' then ['\\', 'n']
  else if c == '\r' then ['\\', 'r']
  else if c == '\t' then ['\\', 't']
  else if c.toNat == 8 then ['\\', 'b']
  else if c.toNat == 12 then ['\\', 'f']
  else if c.toNat < 16 then ['\\', 'u', '0', '0', '0'] ++ Nat.toDigits 16 c.toNat
  else if c.toNat < 32 then ['\\', 'u', '0', '0'] ++ Nat.toDigits 16 c.toNat
  else [c]

/-- A text within quotes. -/
def stringText (text : String) : String :=
  String.ofList ('"' :: (text.toList.flatMap escapedChar ++ ['"']))

namespace Value

mutual

/-- The compact text of a document. -/
def render : Value → String
  | null => "null"
  | bool true => "true"
  | bool false => "false"
  | number n => n.text
  | string text => stringText text
  | array items => "[" ++ renderItems items ++ "]"
  | object fields => "\x7b" ++ renderFields fields ++ "\x7d"

/-- The texts of items, with commas between them. -/
def renderItems : List Value → String
  | [] => ""
  | [item] => item.render
  | item :: rest => item.render ++ "," ++ renderItems rest

/-- The texts of fields, with commas between them. -/
def renderFields : Fields → String
  | [] => ""
  | [field] => stringText field.1 ++ ":" ++ field.2.render
  | field :: rest => stringText field.1 ++ ":" ++ field.2.render ++ "," ++ renderFields rest

end

end Value

end DocAccess.Document

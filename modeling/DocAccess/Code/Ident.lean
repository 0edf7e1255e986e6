import DocAccess.Source.Lexer

/-!
# Identifiers of generated code

An identifier is made from any text that is spelled like a word.  Whether it may stand at a place
in a module is another question: most places refuse keywords, and some allow a few of them.
-/

namespace DocAccess.Code

open DocAccess.Source

/-- An identifier; a raw one is never a keyword. -/
structure Ident where
  name : String
  raw : Bool
  deriving DecidableEq, Repr

namespace Ident

/-- What is written in front of a raw identifier. -/
def rawMark : String := "r#"

/-- The identifier as it is written. -/
def text (i : Ident) : String := if i.raw then rawMark ++ i.name else i.name

/-- The identifier of a fixed word. -/
def ofWord (name : String) : Ident := ⟨name, false⟩

/-- Whether a text is spelled like a word. -/
def isWord (name : String) : Bool :=
  match name.toList with
  | [] => false
  | c :: rest => opensWord c && rest.all Text.isIdentifierPart

/-- The raw identifier of a name. -/
def rawOfName? (name : String) : Option Ident :=
  if isWord name && !neverRaw.contains name then some ⟨name, true⟩ else none

/-- The identifier that a text spells. -/
def ofText? (text : String) : Option Ident :=
  match text.toList with
  | 'r' :: '#' :: rest => rawOfName? (String.ofList rest)
  | _ => if isWord text then some ⟨text, false⟩ else none

/-- Whether the identifier may be declared. -/
def isDeclarable (i : Ident) : Bool := i.raw || !keywords.contains i.name

/-- Whether the identifier is one of some keywords. -/
def isOneOf (names : List String) (i : Ident) : Bool := !i.raw && names.contains i.name

/-- Whether the identifier may name a type. -/
def opensType (i : Ident) : Bool :=
  i.isDeclarable || i.isOneOf ["self", "Self", "super", "crate"]

/-- Whether the identifier may stand in an import. -/
def isImportable (i : Ident) : Bool :=
  i.isDeclarable || i.isOneOf ["self", "super", "crate", "try"]

end Ident

end DocAccess.Code

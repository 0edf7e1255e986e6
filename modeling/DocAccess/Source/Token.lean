/-!
# Tokens of source files

Source text is a list of token trees: a pair of brackets holds the trees between it.  A mark is one
character; longer operators are marks that touch.
-/

namespace DocAccess.Source

/-- A pair of brackets. -/
inductive Delimiter where
  | paren
  | bracket
  | brace
  deriving DecidableEq, Repr

/-- A literal, as far as the grammar looks at it. -/
inductive Literal where
  /-- A string with its escapes resolved. -/
  | string (value : String)
  /-- A number by its text. -/
  | number (text : String)
  /-- A character, byte, byte string or similar. -/
  | other
  deriving DecidableEq, Repr

/-- A token, or a bracketed list of them. -/
inductive Tree where
  /-- A word; a raw one is never a keyword. -/
  | word (name : String) (raw : Bool)
  /-- A mark, and whether the next character is a mark too. -/
  | mark (c : Char) (joint : Bool)
  | lifetime (name : String)
  | literal (value : Literal)
  | group (delimiter : Delimiter) (trees : List Tree)
  deriving Inhabited

/-- The words that are no identifiers. -/
def keywords : List String :=
  ["_", "abstract", "as", "async", "await", "become", "box", "break", "const", "continue", "crate",
    "do", "dyn", "else", "enum", "extern", "false", "final", "fn", "for", "if", "impl", "in", "let",
    "loop", "macro", "match", "mod", "move", "mut", "override", "priv", "pub", "ref", "return",
    "Self", "self", "static", "struct", "super", "trait", "true", "try", "type", "typeof", "unsafe",
    "unsized", "use", "virtual", "where", "while", "yield"]

/-- Whether a tree is an identifier: a raw word or one that is no keyword. -/
def Tree.isIdentifier : Tree → Bool
  | .word name raw => raw || !keywords.contains name
  | _ => false

/-- The words that cannot be raw. -/
def neverRaw : List String := ["_", "super", "self", "Self", "crate"]

end DocAccess.Source

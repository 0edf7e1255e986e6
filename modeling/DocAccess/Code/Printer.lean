import DocAccess.Code.Item
import DocAccess.Layout.Piece
import DocAccess.Text.Name
import DocAccess.Text.Quoted

/-!
# The layout of generated code

Every form of code as pieces of text.  Lists in brackets stand on one line or have a line for each
item and a comma behind the last; a chain of methods stands on one line or breaks before each dot.
-/

namespace DocAccess.Code

open DocAccess.Layout DocAccess.Layout.Piece

/-! ### Names and strings -/

/-- An identifier. -/
def Ident.piece (i : Ident) : Piece := .text i.text

/-- The characters of a string; a zero before an octal digit is written as a number. -/
def escapedFrom : List Char → List Char
  | [] => []
  | c :: rest =>
      let octal := (rest.head?.map fun d => '0' ≤ d && d ≤ '7').getD false
      (if c == '\x00' && octal then ['\\', 'x', '0', '0'] else Text.escaped c) ++ escapedFrom rest

/-- A string in double quotes. -/
def stringLiteral (text : String) : String :=
  String.ofList ('"' :: (escapedFrom text.toList ++ ['"']))

/-! ### Comments -/

/-- A text without the blanks at its end. -/
def trimmedEnd (cs : List Char) : List Char := (cs.reverse.dropWhile (· == ' ')).reverse

/-- The lines of a text, all but the last without the blanks at their ends. -/
def trimmedLines : List (List Char) → List (List Char)
  | [] => []
  | [line] => [line]
  | line :: lines => trimmedEnd line :: trimmedLines lines

/-- Whether the marks of comments within a text are balanced, given the number of open ones. -/
def isBalanced (depth : Nat) : List Char → Bool
  | '/' :: '*' :: rest => isBalanced (depth + 1) rest
  | '*' :: '/' :: rest => depth != 0 && isBalanced (depth - 1) rest
  | _ :: rest => isBalanced depth rest
  | [] => depth == 0

/-- A line of documentation, or a comment of several lines, or an attribute where its text would
end a comment. -/
def docPieces (text : String) : List Piece :=
  let cs := text.toList
  let first := cs.head?
  if !cs.contains '\n' && first != some '/' then
    [.text "///", .text (String.ofList (trimmedEnd cs)), hardBreak 0]
  else if isBalanced 0 cs && first != some '*' && first != some '/' then
    let lines := trimmedLines (Text.splitOn '\n' cs)
    [.text "/**", .text (String.ofList (['\n'].intercalate lines)), .text "*/", hardBreak 0]
  else [.text "#[doc = ", .text (stringLiteral text), .text "]", space 0]

/-- Documentation. -/
def docsPieces (docs : List String) : List Piece := docs.flatMap docPieces

/-! ### Types -/

mutual

/-- A type. -/
def Ty.pieces : Ty → List Piece
  | .named name [] => [name.piece]
  | .named name args => name.piece :: bracketed "<" ">" (typesPieces args)
  | .reference true target => .text "&'static " :: target.pieces
  | .reference false target => .text "&" :: target.pieces
  | .slice item => .text "[" :: (item.pieces ++ [.text "]"])
  | .unit => bracketed "(" ")" []
  | .iterable item =>
      .text "impl IntoIterator" :: bracketed "<" ">" [.text "Item = " :: item.pieces]

/-- Types one by one. -/
def typesPieces : List Ty → List (List Piece)
  | [] => []
  | t :: ts => t.pieces :: typesPieces ts

end

/-- A type argument in an expression. -/
def argumentPieces : Option Ty → List Piece
  | some type => .text "::" :: bracketed "<" ">" [type.pieces]
  | none => []

/-! ### Expressions -/

/-- The path of a name. -/
def pathPieces (names : List Ident) (arg : Option Ty) : List Piece :=
  .text ("::".intercalate (names.map Ident.text)) :: argumentPieces arg

namespace Expr

/-- Whether a dot may follow an expression at the start of a line directly: it is no longer than a
level of indentation. -/
def isShort : Expr → Bool
  | .var name => decide ((name.text.utf8ByteSize : Int) ≤ indentation)
  | _ => false

/-- Whether an expression stands in brackets by itself as an argument. -/
def isBlock : Expr → Bool
  | .closure _ | .array _ | .record _ => true
  | _ => false

/-- The place before a dot. -/
def placeBeforeDot (lineStart : Bool) (base : Expr) : List Piece :=
  if lineStart && base.isShort then [] else [softBreak 0]

/-- The widest value of a structure that stands on one line. -/
def recordWidth : Nat := 34

/-- The pieces of a structure value behind its fields. -/
def limited (parts : List Piece) : List Piece :=
  if recordWidth < widthOfAll parts then parts ++ [.wide] else parts

/-- Arguments of a call, one by one. -/
def argsPieces (args : List Expr) (pieces : List (List Piece)) : List Piece :=
  match args, pieces with
  | [arg], [only] =>
      if arg.isBlock then [.text "("] ++ only ++ [.text ")"] else bracketed "(" ")" pieces
  | _, _ => bracketed "(" ")" pieces

/-- Where an expression stands. -/
inductive Position where
  | lineStart
  | inside
  /-- In front of a dot of a chain, which may start a line. -/
  | link (starts : Bool)

/-- Whether a line starts with what stands there. -/
def Position.startsLine : Position → Bool
  | lineStart => true
  | inside => false
  | link starts => starts

/-- Links of a chain; the whole chain is a block. -/
def Position.chain (links : List Piece) : Position → List Piece
  | link _ => links
  | _ => [block links]

/-- What is no chain; in front of a dot it is not indented with the chain. -/
def Position.single (parts : List Piece) : Position → List Piece
  | link _ => [.group true (-indentation) parts]
  | _ => parts

/-- The position of a function that is called. -/
def Position.ofFunction : Position → Position
  | link _ => link false
  | position => position

/-- The indentation of the arguments of a method. -/
def Position.argsIndent (base : Expr) : Position → Int
  | lineStart => if base.isShort then -indentation else 0
  | _ => 0

/-- The fields of a structure value. -/
def recordPieces (fields : List (List Piece)) : List Piece :=
  .place ⟨1, 0, "", false, true⟩ :: commaSeparated 1 fields

mutual

/-- An expression. -/
def pieces (position : Position) : Expr → List Piece
  | .var name => position.single [name.piece]
  | .path names arg => position.single (pathPieces names arg)
  | .literal s => position.single [.text (stringLiteral s)]
  | .field base name =>
      position.chain (base.pieces (.link position.startsLine)
        ++ placeBeforeDot position.startsLine base ++ [.text ".", name.piece])
  | .method base name arg args =>
      position.chain (base.pieces (.link position.startsLine)
        ++ placeBeforeDot position.startsLine base ++ [.text ".", name.piece] ++ argumentPieces arg
        ++ [.group true (position.argsIndent base) (argsPieces args (piecesOfAll args))])
  | .call function args =>
      function.pieces position.ofFunction ++ argsPieces args (piecesOfAll args)
  | .await e =>
      position.chain (e.pieces (.link position.startsLine)
        ++ placeBeforeDot position.startsLine e ++ [.text ".await"])
  | .check e => position.chain (e.pieces (.link position.startsLine) ++ [.text "?"])
  | .closure body => position.single (.text "|| " :: body.pieces .inside)
  | .reference e => position.single (.text "&" :: e.pieces .inside)
  | .array items => position.single (bracketed "[" "]" (piecesOfAll items))
  | .record fields =>
      position.single
        [block (limited ([.group false (-indentation) [.text "Self"], .text " \x7b"]
          ++ recordPieces (fieldsPieces fields))), .text "\x7d"]

/-- Expressions one by one. -/
def piecesOfAll : List Expr → List (List Piece)
  | [] => []
  | e :: es => e.pieces .inside :: piecesOfAll es

/-- Fields one by one. -/
def fieldsPieces : List (Ident × Option Expr) → List (List Piece)
  | [] => []
  | f :: fs => fieldPieces f :: fieldsPieces fs

/-- A field and its value. -/
def fieldPieces : Ident × Option Expr → List Piece
  | (name, some e) => [name.piece, .text ": ", .group false 0 (e.pieces .inside)]
  | (name, none) => [name.piece]

end

end Expr

/-! ### Statements and items -/

/-- A statement on a line of its own; the next line has an indentation relative to it. -/
def Stmt.pieces (offset : Int) : Stmt → List Piece
  | .bind name value =>
      [.group false 0 ([.text "let ", name.piece, .text " = ", noBreak] ++ value.pieces .inside
        ++ [.text ";"]), hardBreak offset]
  | .give value => [.group false 0 (value.pieces .lineStart), hardBreak offset]

/-- The statements of a body; the line behind the last one is indented less. -/
def bodyPieces : List Stmt → List Piece
  | [] => []
  | [s] => s.pieces (-indentation)
  | s :: rest => s.pieces 0 ++ bodyPieces rest

/-- Lines between braces, the last one indented less; each line is given its offset. -/
def linesBetween (lines : List (Int → List Piece)) : List Piece :=
  match lines.reverse with
  | [] => [hardSeparator (-indentation)]
  | last :: rest => hardSeparator 0 :: ((rest.reverse.flatMap (· 0)) ++ last (-indentation))

/-- A constant. -/
def Constant.pieces (c : Constant) (offset : Int) : List Piece :=
  docsPieces c.docs ++ [.text "pub const ", c.name.piece, .text ": "] ++ c.type.pieces
    ++ [.text " = ", noBreak] ++ c.value.pieces .inside ++ [.text ";", hardBreak offset]

/-- A parameter of a function. -/
def paramPieces (param : Ident × Ty) : List Piece :=
  param.1.piece :: .text ": " :: param.2.pieces

/-- The parameters of a function in brackets. -/
def Function.paramsPieces (f : Function) : List Piece :=
  let params := (if f.takesSelf then [[.text "&self"]] else []) ++ f.params.map paramPieces
  [.group true 0 (softBreak 0 :: commaSeparated 0 params)]

/-- A function. -/
def Function.pieces (f : Function) (offset : Int) : List Piece :=
  docsPieces f.docs ++
    [block ([.text "pub ", .text (if f.isAsync then "async fn " else "fn "), f.name.piece,
        .text "(", noBreak] ++ f.paramsPieces ++ [.text ")",
        .group true (-indentation) (.text " -> " :: f.returns.pieces), .text " \x7b",
        hardSeparator 0] ++ bodyPieces f.body),
      .text "\x7d", hardBreak offset]

/-- A member of a type. -/
def Member.pieces (offset : Int) : Member → List Piece
  | .constant c => c.pieces offset
  | .function f => f.pieces offset

/-- A field of a structure. -/
def Field.pieces (f : Field) (offset : Int) : List Piece :=
  docsPieces f.docs ++ [.text (if f.isPublic then "pub " else ""), f.name.piece, .text ": "]
    ++ f.type.pieces ++ [.text ",", hardBreak offset]

/-- The path of an import. -/
def ImportPath.text (p : ImportPath) : String :=
  (if p.rooted then "::" else "") ++ "::".intercalate (p.words.map Ident.text)

/-- Names with commas between them, as many on a line as fit. -/
def filledNames : List Ident → List Piece
  | [] => []
  | [name] => [name.piece]
  | name :: names => [name.piece, .text ",", space 0] ++ filledNames names

/-- An item. -/
def Item.pieces : Item → List Piece
  | .importOne source name =>
      [.text "use ", .text source.text, .text "::", name.piece, .text ";", hardBreak 0]
  | .importMany source names =>
      [.text "use ", .text source.text, .text "::\x7b",
        block [softBreak 0, .group false 0 (filledNames names), lastComma 0 (-indentation)],
        .text "\x7d", .text ";", hardBreak 0]
  | .structure docs name fields =>
      docsPieces docs ++ [.text "#[derive(Clone, Debug)]", space 0,
        block ([.text "pub struct ", name.piece, .text " \x7b"]
          ++ linesBetween (fields.map Field.pieces)), .text "\x7d", hardBreak 0]
  | .members type list =>
      [block ([.text "impl ", type.piece, .text " \x7b"]
        ++ linesBetween (list.map fun m offset => m.pieces offset)), .text "\x7d", hardBreak 0]
  | .constant c => c.pieces 0
  | .function f => f.pieces 0
  | .renaming docs name type =>
      docsPieces docs ++ [.text "pub type ", name.piece, .text " = ", noBreak] ++ type.pieces
        ++ [.text ";", hardBreak 0]

/-- The text of a module. -/
def Module.text (m : Module) : String := layOut (m.flatMap Item.pieces)

end DocAccess.Code

import DocAccess.Query.Token

/-!
# Expressions of a query

The forms that a filter looks into are kept as trees; every other form is kept as its display, the
one text by which a message can name it.
-/

namespace DocAccess.Query

/-- A literal value. -/
inductive Literal where
  | number (text : String) (long : Bool)
  | string (text : String)
  /-- A text in double quotes, where that is no identifier. -/
  | doubleQuoted (text : String)
  | boolean (flag : Bool)
  | null
  | placeholder (name : String)
  /-- A literal of any other form, by its display. -/
  | other (display : String)
  deriving DecidableEq, Repr

/-- The display of a literal. -/
def Literal.display : Literal → String
  | number text long => text ++ (if long then "L" else "")
  | string text => quotedWith '\'' text
  | doubleQuoted text => quotedWith '"' text
  | boolean true => "true"
  | boolean false => "false"
  | null => "NULL"
  | placeholder name => name
  | other display => display

mutual

/-- An expression. -/
inductive Expr where
  | name (ident : Ident)
  /-- A dotted name. -/
  | path (parts : List Ident)
  | literal (value : Literal)
  | nested (inner : Expr)
  /-- Two operands and the display of the operator between them. -/
  | binary (left : Expr) (operator : String) (right : Expr)
  /-- A call, with what is displayed between the name and the arguments, and behind them. -/
  | call (function : List Ident) (parameters : String) (arguments : Arguments) (suffix : String)
  /-- An expression of any other form, by its display. -/
  | other (display : String)

/-- The arguments of a call. -/
inductive Arguments where
  /-- No parentheses at all. -/
  | absent
  | subquery (display : String)
  /-- A list, with the displays of what stands in front of the items and behind them. -/
  | list (quantifier : String) (items : List Argument) (clauses : String)

/-- One argument. -/
inductive Argument where
  | plain (value : Expr)
  /-- A star, a qualified star or a named argument, by its display. -/
  | other (display : String)

end

mutual

/-- The display of an expression. -/
def Expr.display : Expr → String
  | .name ident => ident.display
  | .path parts => displayName parts
  | .literal value => value.display
  | .nested inner => "(" ++ inner.display ++ ")"
  | .binary left operator right => left.display ++ " " ++ operator ++ " " ++ right.display
  | .call function parameters arguments suffix =>
      displayName function ++ parameters ++ arguments.display ++ suffix
  | .other display => display

/-- The display of the arguments of a call. -/
def Arguments.display : Arguments → String
  | .absent => ""
  | .subquery display => "(" ++ display ++ ")"
  | .list quantifier items clauses =>
      "(" ++ quantifier ++ displayArguments items ++
        (if items.isEmpty || clauses.isEmpty then clauses else " " ++ clauses) ++ ")"

/-- The display of an argument. -/
def Argument.display : Argument → String
  | .plain value => value.display
  | .other display => display

/-- The displays of arguments, with commas between them. -/
def displayArguments : List Argument → String
  | [] => ""
  | [item] => item.display
  | item :: rest => item.display ++ ", " ++ displayArguments rest

end

/-- Texts with commas between them. -/
def commaJoined (texts : List String) : String := ", ".intercalate texts

/-- The displays of expressions, with commas between them. -/
def displayExprs (exprs : List Expr) : String := commaJoined (exprs.map Expr.display)

/-! ### Queries -/

/-- One selected item. -/
inductive Item where
  /-- A star with no name in front, by the display of what narrows it. -/
  | star (options : String)
  /-- An item of any other form, by its display. -/
  | other (display : String)
  deriving DecidableEq, Repr

/-- The display of a selected item. -/
def Item.display : Item → String
  | star options => "*" ++ options
  | other display => display

/-- An alias with the names it gives to columns. -/
structure SourceAlias where
  name : Ident
  columns : String

/-- The display of an alias. -/
def SourceAlias.display (a : SourceAlias) : String :=
  " AS " ++ a.name.display ++ (if a.columns == "" then "" else " (" ++ a.columns ++ ")")

/-- One source without its joins. -/
structure Factor where
  /-- The display of the name, if this is a plain container. -/
  container : Option String
  /-- Whether this is a join in parentheses. -/
  joined : Bool
  /-- What is displayed in front of the alias. -/
  front : String
  label : Option SourceAlias
  /-- What is displayed behind the alias. -/
  back : String

/-- The display of a source. -/
def Factor.display (f : Factor) : String :=
  f.front ++ ((f.label.map SourceAlias.display).getD "") ++ f.back

/-- A source with its joins, by their displays. -/
structure Joined where
  factor : Factor
  joins : List String

/-- The display of a source with its joins. -/
def Joined.display (j : Joined) : String := j.factor.display ++ String.join j.joins

/-- The main part of a query. -/
inductive Body where
  /-- A plain selection: its items, its sources and its condition. -/
  | select (items : List Item) (sources : List Joined) (condition : Option Expr)
  | other

/-- A query with its display. -/
structure QueryForm where
  body : Body
  display : String

/-- A statement. -/
inductive Statement where
  | query (form : QueryForm)
  | other

end DocAccess.Query

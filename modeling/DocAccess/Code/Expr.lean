import DocAccess.Code.Ident

/-!
# Types, expressions and statements of generated code

Only the forms that generated modules need.  A variable is kept apart from a path, so that what a
body reads can be told from what it refers to in the module.
-/

namespace DocAccess.Code

/-- A type. -/
inductive Ty where
  /-- A named type with its arguments. -/
  | named (name : Ident) (args : List Ty)
  /-- A reference, perhaps one that lives as long as the program. -/
  | reference (always : Bool) (target : Ty)
  | slice (item : Ty)
  | unit
  /-- Any type whose values are iterated over. -/
  | iterable (item : Ty)
  deriving Inhabited

/-- A type without arguments. -/
def Ty.ofIdent (name : Ident) : Ty := .named name []

/-- A type of a fixed name. -/
def Ty.ofWord (name : String) (args : List Ty) : Ty := .named (.ofWord name) args

/-- An expression. -/
inductive Expr where
  /-- A parameter or a variable bound before. -/
  | var (name : Ident)
  /-- A function or constant by its path, perhaps with a type argument. -/
  | path (names : List Ident) (arg : Option Ty)
  /-- A string. -/
  | literal (text : String)
  | field (base : Expr) (name : Ident)
  | method (receiver : Expr) (name : Ident) (arg : Option Ty) (args : List Expr)
  | call (function : Expr) (args : List Expr)
  /-- Waits for a result. -/
  | await (e : Expr)
  /-- Gives up on an error. -/
  | check (e : Expr)
  /-- A function without parameters. -/
  | closure (body : Expr)
  | reference (e : Expr)
  | array (items : List Expr)
  /-- A value of the type that the code belongs to; a field of nothing is the variable of its
  name. -/
  | record (fields : List (Ident × Option Expr))
  deriving Inhabited

/-- A statement. -/
inductive Stmt where
  | bind (name : Ident) (value : Expr)
  /-- The result of a body. -/
  | give (value : Expr)

namespace Expr

/-- A fixed variable. -/
def ofWord (name : String) : Expr := .var (.ofWord name)

/-- A fixed path. -/
def ofWords (names : List String) : Expr := .path (names.map .ofWord) none

mutual

/-- The variables that an expression reads, in order. -/
def reads : Expr → List Ident
  | .var name => [name]
  | .path _ _ | .literal _ => []
  | .field base _ => base.reads
  | .method receiver _ _ args => receiver.reads ++ readsOfAll args
  | .call function args => function.reads ++ readsOfAll args
  | .await e | .check e | .closure e | .reference e => e.reads
  | .array items => readsOfAll items
  | .record fields => readsOfFields fields

/-- The variables that expressions read. -/
def readsOfAll : List Expr → List Ident
  | [] => []
  | e :: es => e.reads ++ readsOfAll es

/-- The variables that fields read. -/
def readsOfFields : List (Ident × Option Expr) → List Ident
  | [] => []
  | f :: fs => readsOfField f ++ readsOfFields fs

/-- The variables that a field reads. -/
def readsOfField : Ident × Option Expr → List Ident
  | (_, some e) => e.reads
  | (name, none) => [name]

end

end Expr

end DocAccess.Code

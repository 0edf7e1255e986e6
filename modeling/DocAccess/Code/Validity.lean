import DocAccess.Code.Item

/-!
# Where identifiers may stand

A module is valid if every identifier may stand where it does: declared names are no keywords, and
types and imports allow a few keywords.
-/

namespace DocAccess.Code

mutual

/-- Whether a type is valid. -/
def Ty.isValid : Ty → Bool
  | .named name args => name.opensType && areValidTypes args
  | .reference _ target => target.isValid
  | .slice item | .iterable item => item.isValid
  | .unit => true

/-- Whether types are valid. -/
def areValidTypes : List Ty → Bool
  | [] => true
  | t :: ts => t.isValid && areValidTypes ts

end

/-- Whether a type argument is valid, if there is one. -/
def isValidArgument : Option Ty → Bool
  | some type => type.isValid
  | none => true

mutual

/-- Whether an expression is valid. -/
def Expr.isValid : Expr → Bool
  | .var name => name.opensType
  | .path names arg => names.all Ident.opensType && isValidArgument arg
  | .literal _ => true
  | .field base name => base.isValid && name.isDeclarable
  | .method receiver name arg args =>
      receiver.isValid && name.isDeclarable && isValidArgument arg && areValid args
  | .call function args => function.isValid && areValid args
  | .await e | .check e | .closure e | .reference e => e.isValid
  | .array items => areValid items
  | .record fields => areValidFields fields

/-- Whether expressions are valid. -/
def areValid : List Expr → Bool
  | [] => true
  | e :: es => e.isValid && areValid es

/-- Whether the fields of a value are valid. -/
def areValidFields : List (Ident × Option Expr) → Bool
  | [] => true
  | f :: fs => isValidField f && areValidFields fs

/-- Whether a field of a value is valid. -/
def isValidField : Ident × Option Expr → Bool
  | (name, some e) => name.isDeclarable && e.isValid
  | (name, none) => name.isDeclarable

end

/-- Whether a statement is valid. -/
def Stmt.isValid : Stmt → Bool
  | .bind name value => name.isDeclarable && value.isValid
  | .give value => value.isValid

/-- Whether a constant is valid. -/
def Constant.isValid (c : Constant) : Bool :=
  c.name.isDeclarable && c.type.isValid && c.value.isValid

/-- Whether a function is valid. -/
def Function.isValid (f : Function) : Bool :=
  f.name.isDeclarable && f.params.all (fun p => p.1.isDeclarable && p.2.isValid)
    && f.returns.isValid && f.body.all Stmt.isValid

/-- Whether a member is valid. -/
def Member.isValid : Member → Bool
  | .constant c => c.isValid
  | .function f => f.isValid

/-- Whether a path may stand in an import. -/
def ImportPath.isValid (p : ImportPath) : Bool := p.words.all Ident.isImportable

/-- Whether an item is valid. -/
def Item.isValid : Item → Bool
  | .importOne source name => source.isValid && name.isImportable
  | .importMany source names => source.isValid && names.all Ident.isImportable
  | .structure _ name fields =>
      name.isDeclarable && fields.all fun f => f.name.isDeclarable && f.type.isValid
  | .members type list => type.opensType && list.all Member.isValid
  | .constant c => c.isValid
  | .function f => f.isValid
  | .renaming _ name type => name.isDeclarable && type.isValid

/-- Whether every item of a module is valid. -/
def Module.isValid (m : Module) : Bool := m.all Item.isValid

end DocAccess.Code

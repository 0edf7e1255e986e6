import DocAccess.Code.Expr

/-!
# Items of generated code

A module is a list of items.  Structures can be copied and shown for inspection, and all
declarations but the fields marked as hidden are public.
-/

namespace DocAccess.Code

/-- A path of words that names are imported from. -/
structure ImportPath where
  /-- Whether the path starts at the root. -/
  rooted : Bool
  words : List Ident
  deriving DecidableEq, Repr

/-- A field of a structure. -/
structure Field where
  docs : List String
  /-- Whether the field can be reached from elsewhere. -/
  isPublic : Bool
  name : Ident
  type : Ty

/-- A constant. -/
structure Constant where
  docs : List String
  name : Ident
  type : Ty
  value : Expr

/-- A function, or a method if it takes the value it belongs to. -/
structure Function where
  docs : List String
  isAsync : Bool
  name : Ident
  takesSelf : Bool
  params : List (Ident × Ty)
  returns : Ty
  body : List Stmt

/-- What belongs to a type. -/
inductive Member where
  | constant (c : Constant)
  | function (f : Function)

/-- An item of a module. -/
inductive Item where
  /-- Imports one name. -/
  | importOne (source : ImportPath) (name : Ident)
  /-- Imports several names. -/
  | importMany (source : ImportPath) (names : List Ident)
  | structure (docs : List String) (name : Ident) (fields : List Field)
  /-- The members of a type. -/
  | members (type : Ident) (members : List Member)
  | constant (c : Constant)
  | function (f : Function)
  /-- Another name of a type. -/
  | renaming (docs : List String) (name : Ident) (type : Ty)

/-- A module. -/
abbrev Module := List Item

/-- The name of a member. -/
def Member.name : Member → Ident
  | .constant c => c.name
  | .function f => f.name

/-- The names that an item brings into its module. -/
def Item.names : Item → List Ident
  | .importOne _ name => [name]
  | .importMany _ names => names
  | .structure _ name _ | .renaming _ name _ => [name]
  | .constant c => [c.name]
  | .function f => [f.name]
  | .members _ _ => []

end DocAccess.Code

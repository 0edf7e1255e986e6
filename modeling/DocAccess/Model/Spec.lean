import DocAccess.Text.Words

/-!
# Model declarations
-/

namespace DocAccess.Model

/-- One declared model. -/
structure Spec where
  /-- The name of the model, of its container and of its module. -/
  name : String
  /-- The name of the type of its items. -/
  typeName : String
  /-- The path to the partition of an item, as it is written. -/
  path : String
  /-- The file that declares the model, if there is one. -/
  source : Option String
  deriving DecidableEq, Repr

namespace Spec

/-- A model whose type has the name of the model as a type name. -/
def ofName (name path : String) : Spec := ⟨name, Text.pascalCase name, path, none⟩

/-- The container of a model has its name. -/
def container (s : Spec) : String := s.name

end Spec

end DocAccess.Model

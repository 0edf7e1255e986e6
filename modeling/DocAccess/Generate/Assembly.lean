import DocAccess.Generate.Config
import DocAccess.Operations.Set

/-!
# Assembly of a module

The models and settings are checked and joined to the definition of one module.  Models keep their
order; the first one that is not valid or clashes with one before it is named.
-/

namespace DocAccess.Generate

open DocAccess.Model DocAccess.Operations DocAccess.Partition DocAccess.Source

/-- The names of parameters that no key may have, unless it is the identifier. -/
def reservedParams : List String := ["id", "body", "options"]

/-- The names of types that a generated module uses. -/
def reservedTypes : List String :=
  ["Container", "ContainerDefinition", "Database", "JsonValue", "QueryIter", "RequestOptions",
    "SqlParameter", "SqlQuery", "StoreError", "Option", "Result", "String", "Vec"]

/-- The name of the accessor of a type. -/
def accessorName (typeName : String) : String := typeName ++ "Operations"

/-- All that is needed to emit a module. -/
structure ModuleDef where
  models : List OperationSet
  modelsModule : String
  runtimeCrate : String
  factoryName : String
  clientType : String
  typeAlias : Option String
  deriving DecidableEq, Repr

/-- The key of a model; its parameter names must not be reserved. -/
def keyOf? (s : Spec) : Except GenerateError Key :=
  match Key.derive? s.path with
  | .error cause => .error (.malformedKey s.name s.path cause)
  | .ok key =>
      let reserved := reservedParams.contains key.paramName || reservedParams.contains key.snakeName
      if !key.isIdentity && reserved then .error (.reservedKey s.name key.paramName) else .ok key

/-- Checks a model against the names of the models and types before it. -/
def checkModel (names types : List String) (s : Spec) : Except GenerateError OperationSet :=
  if !isModuleName s.name then .error (.invalidModelName s.name)
  else if names.contains s.name then .error (.duplicateModel s.name)
  else if !isTypeName s.typeName then .error (.invalidTypeName s.name s.typeName)
  else if reservedTypes.contains s.typeName || types.contains s.typeName
      || types.contains (accessorName s.typeName) then
    .error (.reservedType s.name s.typeName)
  else (keyOf? s).map (OperationSet.synthesize s)

/-- Checks models one after the other. -/
def checkModels (names types : List String) : List Spec → Except GenerateError (List OperationSet)
  | [] => .ok []
  | s :: rest => do
      let set ← checkModel names types s
      let sets ← checkModels (s.name :: names) (s.typeName :: accessorName s.typeName :: types) rest
      return set :: sets

/-- Whether a name is the name of a type or accessor of a model. -/
def clashes (models : List OperationSet) (name : String) : Bool :=
  models.any fun set => set.model.typeName == name || accessorName set.model.typeName == name

/-- Refuses names of the client that a model has already. -/
def checkClientNames (models : List OperationSet) (c : Config) : Except GenerateError Unit := do
  if clashes models c.clientType then throw (.invalidSetting .clientType c.clientType)
  match c.typeAlias with
  | some name => if clashes models name then throw (.invalidSetting .typeAlias name)
  | none => return ()

namespace ModuleDef

/-- The module of operation sets and settings, unchecked. -/
def ofSets (models : List OperationSet) (c : Config) : ModuleDef :=
  ⟨models, c.modelsModule, c.runtimeCrate, c.factoryName, c.clientType, c.typeAlias⟩

/-- Checks models and settings and joins them. -/
def assemble (specs : List Spec) (c : Config) : Except GenerateError ModuleDef := do
  c.validate
  let models ← checkModels [] [] specs
  checkClientNames models c
  return ofSets models c

/-- The names of the models in order. -/
def modelNames (m : ModuleDef) : List String := m.models.map (·.model.name)

end ModuleDef

end DocAccess.Generate

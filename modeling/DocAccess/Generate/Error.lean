import DocAccess.Partition.Key

/-!
# Errors of a run

Why a run of the generator fails.  A wording belongs to each cause; the words of the operating
system and of the reader of source texts are no part of it.
-/

namespace DocAccess.Generate

/-- A setting whose value is checked. -/
inductive Setting where
  | modelsModule
  | runtimeCrate
  | factoryName
  | clientType
  | typeAlias
  deriving DecidableEq, Repr

/-- The name of a setting. -/
def Setting.name : Setting → String
  | modelsModule => "models_module"
  | runtimeCrate => "runtime_crate"
  | factoryName => "factory_name"
  | clientType => "client_type"
  | typeAlias => "type_alias"

/-- Why a run fails. -/
inductive GenerateError where
  /-- The directory of model files cannot be listed. -/
  | readDirectory (path : String)
  /-- A model file cannot be read as text. -/
  | readModel (model path : String)
  /-- A model file is no source text. -/
  | parseModel (model : String)
  | invalidModelName (file : String)
  | duplicateModel (model : String)
  /-- A model file declares no partition key. -/
  | missingKey (model : String)
  | keyNotLiteral (model : String)
  | malformedKey (model path : String) (cause : Partition.KeyError)
  /-- A partition key has the name of another parameter. -/
  | reservedKey (model param : String)
  | invalidTypeName (model typeName : String)
  /-- A type has a name that the generated module uses otherwise. -/
  | reservedType (model typeName : String)
  /-- A model file does not define the type of its items. -/
  | missingType (model typeName : String)
  | invalidSetting (setting : Setting) (value : String)
  /-- A variable of the environment is missing. -/
  | environment (name : String)
  /-- The generated module is no source text. -/
  | render
  | write (path : String)
  deriving DecidableEq, Repr

namespace GenerateError

/-- The wording of an error. -/
def message : GenerateError → String
  | readDirectory path => s!"failed to read models directory {path}"
  | readModel model path => s!"failed to read model `{model}` from {path}"
  | parseModel model => s!"model `{model}` could not be parsed"
  | invalidModelName file => s!"model file `{file}` must be named with a lowercase identifier"
  | duplicateModel model => s!"model `{model}` is declared more than once"
  | missingKey model => s!"model `{model}` does not declare a `PARTITION_KEY` constant"
  | keyNotLiteral model =>
      s!"model `{model}` declares `PARTITION_KEY` but its value is not a string literal"
  | malformedKey model path cause =>
      s!"model `{model}` has malformed partition key `{path}`: " ++ cause.message
  | reservedKey model param =>
      s!"model `{model}` partition key parameter `{param}` collides with a reserved parameter name"
  | invalidTypeName model typeName => s!"model `{model}` has invalid type name `{typeName}`"
  | reservedType model typeName =>
      s!"model `{model}` type `{typeName}` clashes with a name used by the generated module"
  | missingType model typeName => s!"model `{model}` does not define a public type `{typeName}`"
  | invalidSetting setting value =>
      "invalid " ++ setting.name ++ s!" `{value}` in generator configuration"
  | environment name => s!"environment variable `{name}` is not set; run from a build script"
  | render => "generated module failed to parse"
  | write path => s!"failed to write {path}"

/-- The model that an error belongs to. -/
def model? : GenerateError → Option String
  | readModel model _ | parseModel model | duplicateModel model | missingKey model
  | keyNotLiteral model | malformedKey model _ _ | reservedKey model _ | invalidTypeName model _
  | reservedType model _ | missingType model _ => some model
  | _ => none

end GenerateError

end DocAccess.Generate

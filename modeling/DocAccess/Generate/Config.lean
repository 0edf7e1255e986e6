import DocAccess.Generate.Error
import DocAccess.Source.Items

/-!
# Settings of a run
-/

namespace DocAccess.Generate

open DocAccess.Source

/-- The settings of a run. -/
structure Config where
  /-- The directory of model files. -/
  modelsDir : String
  /-- The file that is written. -/
  outFile : String
  /-- The path that item types are imported from. -/
  modelsModule : String
  /-- The path that the runtime is imported from. -/
  runtimeCrate : String
  /-- The name of the function that makes a client. -/
  factoryName : String
  clientType : String
  /-- Another name of the client type. -/
  typeAlias : Option String
  deriving DecidableEq, Repr

namespace Config

/-- The settings that hold unless others are given. -/
def default : Config :=
  ⟨"src/models", "src/generated.rs", "crate::models", "::docstore_core", "client", "Client",
    some "Documents"⟩

/-- Refuses a value that is not valid. -/
def check (setting : Setting) (valid : String → Bool) (value : String) :
    Except GenerateError Unit :=
  if valid value then .ok () else .error (.invalidSetting setting value)

/-- Checks every setting; the first one that is not valid is named. -/
def validate (c : Config) : Except GenerateError Unit := do
  check .modelsModule isPath c.modelsModule
  check .runtimeCrate isPath c.runtimeCrate
  check .factoryName isModuleName c.factoryName
  check .clientType isTypeName c.clientType
  match c.typeAlias with
  | some name =>
      check .typeAlias (fun name => isTypeName name && name != c.clientType) name
  | none => return ()

end Config

end DocAccess.Generate

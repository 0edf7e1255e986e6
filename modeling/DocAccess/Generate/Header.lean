/-!
# The header of a generated module
-/

namespace DocAccess.Generate

/-- The name under which the generator signs its output. -/
def toolName : String := "docstore-codegen"

/-- A number of models in words. -/
def modelCount (count : Nat) : String :=
  if count = 1 then "1 model" else toString count ++ " models"

/-- The comment above a module of a number of models. -/
def header (count : Nat) : String :=
  s!"// @generated by {toolName} from {modelCount count}. Do not edit by hand.\n" ++
    "// Re-run the generator after changing a model file.\n"

end DocAccess.Generate

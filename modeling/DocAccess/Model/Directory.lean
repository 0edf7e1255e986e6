import DocAccess.Files.Access
import DocAccess.Model.File

/-!
# Directories of model files

Every source file of a directory declares a model, apart from those that only gather others and
those that are hidden.  Models are in the order of their file names, whatever order the directory is
listed in; the first file that is not valid is named.
-/

namespace DocAccess.Model

open DocAccess.Files DocAccess.Generate

/-- The names of source files that gather other files. -/
def gatheringStems : List String := ["mod", "lib"]

/-- Whether the name of a file is that of a model file. -/
def isModelName (name : String) : Bool :=
  let (stem, extension) := splitName name
  extension == some "rs" && stem.toList.head? != some '.' && !gatheringStems.contains stem

/-- The names of model files among file names, in order. -/
def modelNames (names : List String) : List String :=
  (names.filter isModelName).mergeSort fun a b => decide (a ≤ b)

/-- The model that a file of a name declares, given what reading it gives. -/
def Spec.ofContents? (directory name : String) (contents : Reading) :
    Except GenerateError Spec := do
  let stem := (splitName name).1
  let path := join directory name
  if !Source.isModuleName stem then throw (.invalidModelName name)
  match contents with
  | .contents bytes =>
      match String.fromUTF8? bytes with
      | some text => return { ← Spec.ofText? stem text with source := some path }
      | none => throw (.readModel stem path)
  | _ => throw (.readModel stem path)

section Access

variable {m : Type → Type} [Monad m] (files : Access m)

/-- The names of the model files of a directory. -/
def listModels (directory : String) : ExceptT GenerateError m (List String) := do
  match ← files.list directory with
  | some names => return modelNames names
  | none => throw (.readDirectory directory)

/-- The model that a file declares. -/
def loadModel (directory name : String) : ExceptT GenerateError m Spec := do
  let contents ← files.read (join directory name)
  Spec.ofContents? directory name contents

/-- The models that files declare; reading stops at the first file that is not valid. -/
def loadModels (directory : String) : List String → ExceptT GenerateError m (List Spec)
  | [] => return []
  | name :: names => do
      let s ← loadModel files directory name
      return s :: (← loadModels directory names)

/-- The models of a directory. -/
def loadDirectory (directory : String) : ExceptT GenerateError m (List Spec) := do
  loadModels files directory (← listModels files directory)

end Access

end DocAccess.Model

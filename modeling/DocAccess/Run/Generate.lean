import DocAccess.Emission.Module
import DocAccess.Model.Directory
import DocAccess.Run.Change

/-!
# Runs of the generator

A run loads models, joins them to a module, renders it and writes it.  Every model is checked and
the whole module rendered before the output is touched.
-/

namespace DocAccess.Run

open DocAccess.Emission DocAccess.Files DocAccess.Generate DocAccess.Model

/-- What a run reports. -/
structure Report where
  models : List String
  outFile : String
  change : Change
  deriving DecidableEq, Repr

/-- The module of models and its text. -/
def rendered (c : Config) (specs : List Spec) : Outcome (ModuleDef × String) := do
  let m ← Outcome.ofExcept (ModuleDef.assemble specs c)
  return (m, ← sourceOf m)

/-- The models that a run starts from. -/
abbrev Source (m : Type → Type) := ExceptT Fault m (List Spec)

section Access

variable {m : Type → Type} [Monad m] (files : Access m)

/-- The models of a directory. -/
def ofDirectory (directory : String) : Source m :=
  (loadDirectory files directory).adapt Fault.error

/-- The models given. -/
def ofSpecs (specs : List Spec) : Source m := return specs

/-- Renders the models of a source. -/
def renderFrom (source : Source m) (c : Config) : ExceptT Fault m (ModuleDef × String) := do
  let specs ← source
  ExceptT.mk (return rendered c specs)

/-- Generates a module from the models of a source. -/
def generateFrom (source : Source m) (c : Config) : ExceptT Fault m Report := do
  let (definition, text) ← renderFrom source c
  let change ← writeIfChanged files c.outFile text
  return ⟨definition.modelNames, c.outFile, change⟩

/-- Generates a module from the directory of model files. -/
def generate (c : Config) : ExceptT Fault m Report :=
  generateFrom files (ofDirectory files c.modelsDir) c

/-- Renders a module from the directory of model files. -/
def render (c : Config) : ExceptT Fault m String := do
  return (← renderFrom (ofDirectory files c.modelsDir) c).2

/-- How generating would change the output. -/
def check (c : Config) : ExceptT Fault m Change := do
  compare files c.outFile (← render files c)

end Access

end DocAccess.Run

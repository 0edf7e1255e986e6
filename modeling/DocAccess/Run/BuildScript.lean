import DocAccess.Run.Generate

/-!
# Runs from a build script

The environment of a build script names the directories that the paths of the settings are below.
The script tells the build tool which files it depends on: the directory of model files, and every
file that is found there.
-/

namespace DocAccess.Run

open DocAccess.Files DocAccess.Generate DocAccess.Model

/-- The variable for the directory above that of the model files. -/
def manifestVariable : String := "CARGO_MANIFEST_DIR"

/-- The variable for the directory of the output. -/
def outVariable : String := "OUT_DIR"

/-- The line that names a file to depend on. -/
def dependencyLine (path : String) : String := "cargo:rerun-if-changed=" ++ path

/-- The settings with paths below the directories of a build. -/
def settingsBelow (manifestDir outDir : String) (c : Config) : Config :=
  { c with modelsDir := join manifestDir c.modelsDir, outFile := join outDir c.outFile }

section Access

variable {m : Type → Type} [Monad m] (files : Access m)

/-- The value of a variable of the environment. -/
def variableOf (environment : String → Option String) (name : String) : Outcome String :=
  match environment name with
  | some value => .ok value
  | none => .error (.error (.environment name))

/-- The settings of a run in an environment. -/
def settingsIn (environment : String → Option String) (c : Config) : Outcome Config := do
  let manifestDir ← variableOf environment manifestVariable
  let outDir ← variableOf environment outVariable
  return settingsBelow manifestDir outDir c

/-- Runs the generator in an environment; gives the lines for the build tool too. -/
def buildRun (environment : String → Option String) (c : Config) :
    m (List String × Outcome Report) := do
  match settingsIn environment c with
  | .error fault => return ([], .error fault)
  | .ok c =>
      let line := dependencyLine c.modelsDir
      match ← (listModels files c.modelsDir).run with
      | .error e => return ([line], .error (.error e))
      | .ok names =>
          let lines := names.map fun name => dependencyLine (join c.modelsDir name)
          return (line :: lines, ← (generate files c).run)

end Access

end DocAccess.Run
